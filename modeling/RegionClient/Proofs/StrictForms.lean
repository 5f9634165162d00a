import Mathlib.Data.List.Forall2
import RegionClient.Schema.Record

set_option autoImplicit false

/-! # Strict forms

What a checker gives is typed more strictly than what it takes: a forced integer comes out as an
integer in range, whatever it was read from. `Checker.Strict` says which values are the strict forms
of a shape, and `Checker.coerceAt_strict` that a checker gives no other.

An embedded object goes through its checker as it is, with all that its own reader may want of it:
`Checker.coerceAt_object` and `Checker.coerceAt_objects`.
-/

namespace RegionClient

/-! ## Outcomes -/

section Outcomes

variable {ε α β : Type} {x : Except ε α}

theorem map_error {f : α → β} {e : ε} : x.map f = .error e ↔ x = .error e := by
  cases x <;> simp [Except.map]

theorem bind_ok {f : α → Except ε β} {b : β} : x.bind f = .ok b ↔ ∃ a, x = .ok a ∧ f a = .ok b := by
  cases x <;> simp [Except.bind]

theorem bind_error {f : α → Except ε β} {e : ε} :
    x.bind f = .error e ↔ x = .error e ∨ ∃ a, x = .ok a ∧ f a = .error e := by
  cases x <;> simp [Except.bind]

end Outcomes

namespace Checker

/-! ## Induction on checkers -/

/-- Induction on a checker, with what holds of each alternative and of each declared member. -/
@[elab_as_elim]
theorem induct {P : Checker → Prop} (string : P .string) (int : P .int) (forcedInt : P .forcedInt)
    (uint : P .uint) (forcedUint : P .forcedUint) (bool : P .bool) (null : P .null) (any : P .any)
    (list : ∀ item, P item → P (.list item)) (stringMap : ∀ item, P item → P (.stringMap item))
    (oneOf : ∀ cs, (∀ c ∈ cs, P c) → P (.oneOf cs))
    (fields : ∀ members : List (Member Checker), (∀ m ∈ members, P m.checker) → P (.fields members))
    (c : Checker) : P c :=
  @Checker.rec P (fun cs => ∀ c ∈ cs, P c) (fun members => ∀ m ∈ members, P m.checker)
    (fun m => P m.checker) string int forcedInt uint forcedUint bool null any list stringMap oneOf
    fields (List.forall_mem_nil _) (fun _ _ hc hcs => List.forall_mem_cons.mpr ⟨hc, hcs⟩)
    (List.forall_mem_nil _) (fun _ _ hm hrest => List.forall_mem_cons.mpr ⟨hm, hrest⟩)
    (fun _ _ _ hc => hc) c

/-! ## Strict forms -/

/-- The strict forms of a shape. -/
inductive Strict : Checker → Json → Prop where
  | string (s : String) : Strict .string (.string s)
  | int {n : Int} (h : -2 ^ 63 ≤ n ∧ n < 2 ^ 63) : Strict .int (.integer n)
  | forcedInt {n : Int} (h : -2 ^ 63 ≤ n ∧ n < 2 ^ 63) : Strict .forcedInt (.integer n)
  | uint {n : Int} (h : 0 ≤ n ∧ n < 2 ^ 64) : Strict .uint (.integer n)
  | forcedUint {n : Int} (h : 0 ≤ n ∧ n < 2 ^ 64) : Strict .forcedUint (.integer n)
  | bool (b : Bool) : Strict .bool (.bool b)
  | null : Strict .null .null
  | any (w : Json) : Strict .any w
  | list {item : Checker} {ws : List Json} (h : ∀ w ∈ ws, Strict item w) :
      Strict (.list item) (.list ws)
  | stringMap {item : Checker} {es : List (String × Json)} (h : ∀ e ∈ es, Strict item e.2) :
      Strict (.stringMap item) (.object es)
  | oneOf {cs : List Checker} {c : Checker} {w : Json} (hc : c ∈ cs) (h : Strict c w) :
      Strict (.oneOf cs) w
  | fields (members : List (Member Checker)) (es : List (String × Json)) :
      Strict (.fields members) (.object es)

/-! ## Integers -/

theorem inSigned_eq_some {n m : Int} :
    inSigned n = some m ↔ n = m ∧ -2 ^ 63 ≤ m ∧ m < 2 ^ 63 := by
  rw [inSigned, Option.ite_none_right_eq_some, Option.some.injEq, and_comm]
  constructor
  · rintro ⟨rfl, h⟩
    exact ⟨rfl, h⟩
  · rintro ⟨rfl, h⟩
    exact ⟨rfl, h⟩

theorem inUnsigned_eq_some {n m : Int} :
    inUnsigned n = some m ↔ n = m ∧ 0 ≤ m ∧ m < 2 ^ 64 := by
  rw [inUnsigned, Option.ite_none_right_eq_some, Option.some.injEq, and_comm]
  constructor
  · rintro ⟨rfl, h⟩
    exact ⟨rfl, h⟩
  · rintro ⟨rfl, h⟩
    exact ⟨rfl, h⟩

theorem inSigned_range {n m : Int} (h : inSigned n = some m) : -2 ^ 63 ≤ m ∧ m < 2 ^ 63 :=
  (inSigned_eq_some.mp h).2

theorem inUnsigned_range {n m : Int} (h : inUnsigned n = some m) : 0 ≤ m ∧ m < 2 ^ 64 :=
  (inUnsigned_eq_some.mp h).2

theorem int?_range {value : Json} {n : Int} (h : int? value = some n) :
    -2 ^ 63 ≤ n ∧ n < 2 ^ 63 := by
  cases value with
  | integer m => exact inSigned_range h
  | double d =>
    simp only [int?] at h
    split at h
    · exact inSigned_range h
    · cases h
  | _ => cases h

theorem uint?_range {value : Json} {n : Int} (h : uint? value = some n) : 0 ≤ n ∧ n < 2 ^ 64 := by
  cases value with
  | integer m => exact inUnsigned_range h
  | double d =>
    simp only [uint?] at h
    split at h
    · exact inUnsigned_range h
    · cases h
  | _ => cases h

theorem cutUnsigned_range {d : Binary64} {n : Int} (h : cutUnsigned d = some n) :
    0 ≤ n ∧ n < 2 ^ 64 := by
  unfold cutUnsigned at h
  split at h
  · cases h
  · exact inUnsigned_range h

theorem forcedInt?_range {value : Json} {n : Int} (h : forcedInt? value = some n) :
    -2 ^ 63 ≤ n ∧ n < 2 ^ 63 := by
  cases value with
  | integer m => exact inSigned_range h
  | double d => exact inSigned_range h
  | string s =>
    simp only [forcedInt?, Option.orElse_eq_orElse, Option.orElse_eq_or, Option.or_eq_some_iff,
      Option.bind_eq_some_iff] at h
    rcases h with h | ⟨-, d, -, h⟩
    · simpa using (Option.filter_eq_some_iff.mp h).2
    · exact inSigned_range h
  | _ => cases h

theorem forcedUint?_range {value : Json} {n : Int} (h : forcedUint? value = some n) :
    0 ≤ n ∧ n < 2 ^ 64 := by
  cases value with
  | integer m => exact inUnsigned_range h
  | double d => exact cutUnsigned_range h
  | string s =>
    simp only [forcedUint?, Option.orElse_eq_orElse, Option.orElse_eq_or, Option.or_eq_some_iff,
      Option.map_eq_some_iff, Option.bind_eq_bind, Option.bind_eq_some_iff, Option.pure_def,
      Option.some.injEq] at h
    rcases h with ⟨_, ⟨m, h, rfl⟩, rfl⟩ | ⟨-, d, -, h⟩
    · have hm : m < 2 ^ 64 := by simpa using (Option.filter_eq_some_iff.mp h).2
      omega
    · exact cutUnsigned_range h
  | _ => cases h

theorem integerOr_ok {found : Option Int} {path : Path} {expected : String} {value w : Json}
    (h : integerOr found path expected value = .ok w) : ∃ n, found = some n ∧ w = .integer n := by
  cases found with
  | none => cases h
  | some n => exact ⟨n, rfl, (Except.ok.inj h).symm⟩

theorem integerOr_some {found : Option Int} {n : Int} (h : found = some n) (path : Path)
    (expected : String) (value : Json) : integerOr found path expected value = .ok (.integer n) := by
  rw [h]
  rfl

/-! ## Coercion -/

theorem map_ok {ε α β : Type} {f : α → β} {x : Except ε α} {b : β} (h : x.map f = .ok b) :
    ∃ a, x = .ok a ∧ f a = b := by
  cases x with
  | error e => cases h
  | ok a => exact ⟨a, rfl, Except.ok.inj h⟩

/-- Each item is related to what it is coerced to. -/
theorem coerceItems_forall₂ {item : Path → Json → Except SchemaFault Json} {R : Json → Json → Prop}
    (hitem : ∀ {path value w}, item path value = .ok w → R value w) {path : Path} {index : Nat}
    {items ws : List Json} (h : coerceItems item path index items = .ok ws) :
    List.Forall₂ R items ws := by
  induction items generalizing index ws with
  | nil =>
    obtain rfl := Except.ok.inj h
    exact .nil
  | cons value rest ih =>
    obtain ⟨w, hw, h⟩ := bind_ok.mp h
    obtain ⟨ws, hws, h⟩ := bind_ok.mp h
    obtain rfl := Except.ok.inj h
    exact .cons (hitem hw) (ih hws)

/-- Each value of an object is related to what it is coerced to, under the same key. -/
theorem coerceEntries_forall₂ {item : Path → Json → Except SchemaFault Json}
    {R : Json → Json → Prop} (hitem : ∀ {path value w}, item path value = .ok w → R value w)
    {path : Path} {entries es : List (String × Json)}
    (h : coerceEntries item path entries = .ok es) :
    List.Forall₂ (fun e f => f.1 = e.1 ∧ R e.2 f.2) entries es := by
  induction entries generalizing es with
  | nil =>
    obtain rfl := Except.ok.inj h
    exact .nil
  | cons entry rest ih =>
    obtain ⟨w, hw, h⟩ := bind_ok.mp h
    obtain ⟨es, hes, h⟩ := bind_ok.mp h
    obtain rfl := Except.ok.inj h
    exact .cons ⟨rfl, hitem hw⟩ (ih hes)

theorem forall_of_forall₂ {α β : Type} {R : α → β → Prop} {P : β → Prop} {as : List α}
    {bs : List β} (h : List.Forall₂ R as bs) (hR : ∀ a b, R a b → P b) : ∀ b ∈ bs, P b := by
  induction h with
  | nil => exact fun b hb => nomatch hb
  | cons hab _ ih => exact List.forall_mem_cons.mpr ⟨hR _ _ hab, ih⟩

/-- Items that are coerced one by one have what holds of each. -/
theorem coerceItems_forall {item : Path → Json → Except SchemaFault Json} {P : Json → Prop}
    (hitem : ∀ {path value w}, item path value = .ok w → P w) {path : Path} {index : Nat}
    {items ws : List Json} (h : coerceItems item path index items = .ok ws) : ∀ w ∈ ws, P w := by
  have hforall : List.Forall₂ (fun _ w => P w) items ws := coerceItems_forall₂ hitem h
  exact forall_of_forall₂ hforall fun _ _ hw => hw

/-- Entries that are coerced one by one have what holds of each value. -/
theorem coerceEntries_forall {item : Path → Json → Except SchemaFault Json} {P : Json → Prop}
    (hitem : ∀ {path value w}, item path value = .ok w → P w) {path : Path}
    {entries es : List (String × Json)} (h : coerceEntries item path entries = .ok es) :
    ∀ e ∈ es, P e.2 := by
  have hforall : List.Forall₂ (fun (e f : String × Json) => f.1 = e.1 ∧ P f.2) entries es :=
    coerceEntries_forall₂ (fun hw => hitem hw) h
  exact forall_of_forall₂ hforall fun _ _ hf => hf.2

/-- Items that a check accepts wherever they stand make a list that it accepts. -/
theorem coerceItems_of_forall₂ {item : Path → Json → Except SchemaFault Json}
    {items ws : List Json} (h : List.Forall₂ (fun u w => ∀ path, item path u = .ok w) items ws)
    (path : Path) (index : Nat) : coerceItems item path index items = .ok ws := by
  induction h generalizing index with
  | nil => rfl
  | cons hw _ ih =>
    rw [coerceItems, hw, ih]
    rfl

theorem coerceEntries_of_forall₂ {item : Path → Json → Except SchemaFault Json}
    {entries es : List (String × Json)}
    (h : List.Forall₂ (fun e f => f.1 = e.1 ∧ ∀ path, item path e.2 = .ok f.2) entries es)
    (path : Path) : coerceEntries item path entries = .ok es := by
  induction h with
  | nil => rfl
  | cons hw _ ih =>
    rw [coerceEntries, hw.2, ih, ← hw.1]
    rfl

/-- Items that a check leaves as they are make a list that it leaves as it is. -/
theorem coerceItems_fixed {item : Path → Json → Except SchemaFault Json} {items : List Json}
    (hitem : ∀ w ∈ items, ∀ path, item path w = .ok w) (path : Path) (index : Nat) :
    coerceItems item path index items = .ok items :=
  coerceItems_of_forall₂ (List.forall₂_same.mpr hitem) path index

theorem coerceEntries_fixed {item : Path → Json → Except SchemaFault Json}
    {entries : List (String × Json)} (hitem : ∀ e ∈ entries, ∀ path, item path e.2 = .ok e.2)
    (path : Path) : coerceEntries item path entries = .ok entries :=
  coerceEntries_of_forall₂ (List.forall₂_same.mpr fun e he => ⟨rfl, hitem e he⟩) path

theorem coerceAt_oneOf_ok {cs : List Checker} {path : Path} {value w : Json}
    (h : coerceAt (.oneOf cs) path value = .ok w) : coerceFirst cs path value = .ok w := by
  rw [coerceAt] at h
  cases hfirst : coerceFirst cs path value with
  | ok v =>
    rw [hfirst] at h
    exact congrArg _ (Except.ok.inj h)
  | error deeper =>
    rw [hfirst] at h
    cases deeper <;> cases h

/-- The first of several checkers accepts the value, or refuses it and leaves it to the others. -/
theorem coerceFirst_cons_ok {c : Checker} {cs : List Checker} {path : Path} {value w : Json}
    (h : coerceFirst (c :: cs) path value = .ok w) :
    coerceAt c path value = .ok w ∨
      (∃ fault, coerceAt c path value = .error fault) ∧ coerceFirst cs path value = .ok w := by
  rw [coerceFirst] at h
  cases hc : coerceAt c path value with
  | ok v =>
    rw [hc] at h
    exact .inl (congrArg _ (Except.ok.inj h))
  | error fault =>
    rw [hc] at h
    cases hcs : coerceFirst cs path value with
    | ok v =>
      rw [hcs] at h
      exact .inr ⟨⟨fault, rfl⟩, congrArg _ (Except.ok.inj h)⟩
    | error later =>
      rw [hcs] at h
      cases h

/-- What several checkers give is given by one of them. -/
theorem coerceFirst_ok {cs : List Checker} {path : Path} {value w : Json}
    (h : coerceFirst cs path value = .ok w) : ∃ c ∈ cs, coerceAt c path value = .ok w := by
  induction cs with
  | nil => cases h
  | cons c rest ih =>
    rcases coerceFirst_cons_ok h with hc | ⟨-, hrest⟩
    · exact ⟨c, List.mem_cons_self, hc⟩
    · obtain ⟨d, hd, haccepts⟩ := ih hrest
      exact ⟨d, List.mem_cons_of_mem c hd, haccepts⟩

/-- **A checker gives strict forms only.** -/
theorem coerceAt_strict (c : Checker) {path : Path} {value w : Json}
    (h : coerceAt c path value = .ok w) : Strict c w := by
  induction c using induct generalizing path value w with
  | any => exact .any w
  | string =>
    cases value with
    | string s => cases h; exact .string s
    | _ => cases h
  | bool =>
    cases value with
    | bool b => cases h; exact .bool b
    | _ => cases h
  | null =>
    cases value with
    | null => cases h; exact .null
    | _ => cases h
  | int =>
    obtain ⟨n, hn, rfl⟩ := integerOr_ok h
    exact .int (int?_range hn)
  | forcedInt =>
    obtain ⟨n, hn, rfl⟩ := integerOr_ok h
    exact .forcedInt (forcedInt?_range hn)
  | uint =>
    obtain ⟨n, hn, rfl⟩ := integerOr_ok h
    exact .uint (uint?_range hn)
  | forcedUint =>
    obtain ⟨n, hn, rfl⟩ := integerOr_ok h
    exact .forcedUint (forcedUint?_range hn)
  | list item ih =>
    cases value with
    | list items =>
      obtain ⟨ws, hws, rfl⟩ := map_ok h
      exact .list (coerceItems_forall (fun hw => ih hw) hws)
    | _ => cases h
  | stringMap item ih =>
    cases value with
    | object entries =>
      obtain ⟨es, hes, rfl⟩ := map_ok h
      exact .stringMap (coerceEntries_forall (fun hw => ih hw) hes)
    | _ => cases h
  | oneOf cs ih =>
    obtain ⟨c, hc, haccepts⟩ := coerceFirst_ok (coerceAt_oneOf_ok h)
    exact .oneOf hc (ih c hc haccepts)
  | fields members =>
    cases value with
    | object entries =>
      obtain ⟨values, -, rfl⟩ := map_ok h
      exact .fields members _
    | _ => cases h

theorem nullable_strict {c : Checker} {w : Json} (h : Strict (.nullable c) w) :
    w = .null ∨ Strict c w := by
  cases h with
  | oneOf hc h =>
    rcases List.mem_cons.mp hc with rfl | hc
    · cases h with
      | null => exact .inl rfl
    · obtain rfl := List.mem_singleton.mp hc
      exact .inr h

/-- What is not null goes through the inner checker of a nullable one. -/
theorem coerceAt_nullable {c : Checker} {path : Path} {value w : Json} (hne : value ≠ .null)
    (h : coerceAt (.nullable c) path value = .ok w) : coerceAt c path value = .ok w := by
  rcases coerceFirst_cons_ok (coerceAt_oneOf_ok h) with hnull | ⟨-, hrest⟩
  · cases value <;> contradiction
  · rcases coerceFirst_cons_ok hrest with hc | ⟨-, hnil⟩
    · exact hc
    · cases hnil

theorem coerceAt_nullable_of {c : Checker} {path : Path} {value w : Json} (hne : value ≠ .null)
    (h : coerceAt c path value = .ok w) : coerceAt (.nullable c) path value = .ok w := by
  cases value with
  | null => exact absurd rfl hne
  | _ => simp [nullable, coerceAt, coerceFirst, h]

end Checker

/-! ## Embedded objects -/

/-- Whether the value is an object. -/
def Json.isObject : Json → Bool
  | object _ => true
  | _ => false

theorem Json.isObject_iff {value : Json} :
    value.isObject = true ↔ ∃ entries, value = .object entries := by
  cases value <;> simp [isObject]

/-- The first item that is no object, with its position, if the list begins at position `index`. -/
def Json.firstOther : Nat → List Json → Option (Json × Nat)
  | _, [] => none
  | index, u :: rest => if u.isObject then firstOther (index + 1) rest else some (u, index)

theorem Json.firstOther_eq_none {index : Nat} {items : List Json} :
    firstOther index items = none ↔ ∀ u ∈ items, u.isObject = true := by
  induction items generalizing index with
  | nil => simp [firstOther]
  | cons u rest ih => cases hu : u.isObject <;> simp [firstOther, hu, ih]

theorem Json.firstNoObject_eq (index : Nat) (items : List Json) :
    firstNoObject index items =
      (firstOther index items).map fun p => .mismatch [.item p.2] "map" p.1 := by
  induction items generalizing index with
  | nil => rfl
  | cons u rest ih => cases u <;> simp [firstNoObject, firstOther, isObject, ih]

namespace Checker

/-- An object stays as it is. -/
theorem coerceAt_object (path : Path) (value : Json) :
    coerceAt .object path value =
      if value.isObject then .ok value else .error (.mismatch path "map" value) := by
  cases value with
  | object entries =>
    have hentries : ∀ e ∈ entries, ∀ path, coerceAt .any path e.2 = .ok e.2 := fun _ _ _ => rfl
    show (coerceEntries (coerceAt .any) path entries).map Json.object = .ok (.object entries)
    rw [coerceEntries_fixed hentries]
    rfl
  | _ => rfl

/-- An object or null stays as it is. -/
theorem coerceAt_nullable_object (path : Path) (value : Json) :
    coerceAt (.nullable .object) path value =
      if value.isNull || value.isObject then .ok value
      else .error (.mismatch path (expected (.nullable .object)) value) := by
  have hobject := coerceAt_object path value
  cases value <;>
    simp_all [nullable, coerceAt, coerceFirst, Json.isObject, Json.isNull, SchemaFault.mismatch]

/-- Objects in a list stay as they are. -/
theorem coerceAt_objects (path : Path) (items : List Json) :
    coerceAt (.list .object) path (.list items) =
      match Json.firstOther 0 items with
      | none => .ok (.list items)
      | some p => .error (.mismatch (path ++ [.item p.2]) "map" p.1) := by
  have hitems : ∀ index, coerceItems (coerceAt .object) path index items =
      match Json.firstOther index items with
      | none => .ok items
      | some p => .error (.mismatch (path ++ [.item p.2]) "map" p.1) := by
    induction items with
    | nil => exact fun _ => rfl
    | cons u rest ih =>
      intro index
      rw [coerceItems, coerceAt_object, ih, Json.firstOther]
      cases u.isObject with
      | false => rfl
      | true => cases Json.firstOther (index + 1) rest <;> rfl
  simp only [coerceAt, hitems]
  cases Json.firstOther 0 items <;> rfl

theorem coerceAt_string_ok {path : Path} {value w : Json}
    (h : coerceAt .string path value = .ok w) : w = value ∧ ∃ s, value = .string s := by
  cases value with
  | string s => exact ⟨(Except.ok.inj h).symm, s, rfl⟩
  | _ => cases h

theorem coerceAt_object_ok {path : Path} {value w : Json}
    (h : coerceAt .object path value = .ok w) :
    w = value ∧ value.isObject = true := by
  rw [coerceAt_object] at h
  split at h
  · rename_i hobject
    exact ⟨(Except.ok.inj h).symm, hobject⟩
  · cases h

theorem coerceAt_nullable_object_ok {path : Path} {value w : Json}
    (h : coerceAt (.nullable .object) path value = .ok w) :
    w = value ∧ (value.isNull || value.isObject) = true := by
  rw [coerceAt_nullable_object] at h
  split at h
  · rename_i hshape
    exact ⟨(Except.ok.inj h).symm, hshape⟩
  · cases h

theorem coerceAt_objects_ok {path : Path} {value w : Json}
    (h : coerceAt (.list .object) path value = .ok w) :
    w = value ∧ ∃ items, value = .list items ∧ ∀ u ∈ items, u.isObject = true := by
  cases value with
  | list items =>
    rw [coerceAt_objects] at h
    cases hother : Json.firstOther 0 items with
    | none =>
      rw [hother] at h
      exact ⟨(Except.ok.inj h).symm, items, rfl, Json.firstOther_eq_none.mp hother⟩
    | some p =>
      rw [hother] at h
      cases h
  | _ => cases h

end Checker

end RegionClient
