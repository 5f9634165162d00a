import Mathlib.Data.List.Nodup
import RegionClient.Layout
import RegionClient.Proofs.StrictForms

set_option autoImplicit false

/-! # What a check leaves of each member

A check goes through the declared members one by one, and what it makes of each depends on nothing
but what the object has under its name: `Member.settle`. So a record that was checked holds the
settled value of every member (`Schema.check_holds`), and two objects whose members settle alike are
checked alike (`Checker.checkMembers_alike`).

What is settled is what the getter of the member wants: `Member.ReadBy` says so of a checker, what
it says of a missing member, and a getter, for each building block of layouts.
-/

namespace RegionClient

/-! ## Outcomes -/

/-- The same error, or results in a relation. -/
inductive Alike {ε α β : Type} (R : α → β → Prop) : Except ε α → Except ε β → Prop where
  | error (e : ε) : Alike R (.error e) (.error e)
  | ok {a : α} {b : β} (h : R a b) : Alike R (.ok a) (.ok b)

namespace Alike

variable {ε α β γ δ : Type} {R : α → β → Prop} {S : γ → δ → Prop} {x : Except ε α}
  {x' : Except ε β}

theorem refl {R : α → α → Prop} (hR : ∀ a, R a a) (x : Except ε α) : Alike R x x := by
  cases x with
  | error e => exact .error e
  | ok a => exact .ok (hR a)

theorem bind {f : α → Except ε γ} {f' : β → Except ε δ} (h : Alike R x x')
    (hf : ∀ a b, R a b → Alike S (f a) (f' b)) : Alike S (x.bind f) (x'.bind f') := by
  cases h with
  | error e => exact .error e
  | ok hab => exact hf _ _ hab

theorem map {f : α → γ} {f' : β → δ} (h : Alike R x x') (hf : ∀ a b, R a b → S (f a) (f' b)) :
    Alike S (x.map f) (x'.map f') := by
  cases h with
  | error e => exact .error e
  | ok hab => exact .ok (hf _ _ hab)

theorem mapError {ε' : Type} (f : ε → ε') (h : Alike R x x') :
    Alike R (x.mapError f) (x'.mapError f) := by
  cases h with
  | error e => exact .error (f e)
  | ok hab => exact .ok hab

/-- Nothing is left of a difference that is not looked at. -/
theorem bind_eq {f : α → Except ε γ} {f' : β → Except ε γ} (h : Alike R x x')
    (hf : ∀ a b, R a b → f' b = f a) : x'.bind f' = x.bind f := by
  cases h with
  | error e => rfl
  | ok hab => exact hf _ _ hab

end Alike

section Results

variable {ε α β : Type}

/-- What a computation gives is dropped. -/
def verdict (x : Except ε α) : Except ε Unit :=
  x.map fun _ => ()

theorem verdict_ok {x : Except ε α} : verdict x = .ok () ↔ ∃ a, x = .ok a := by
  cases x <;> simp [verdict, Except.map]

theorem verdict_error {x : Except ε α} {e : ε} : verdict x = .error e ↔ x = .error e := by
  cases x <;> simp [verdict, Except.map]

theorem verdict_map (f : α → β) (x : Except ε α) : verdict (x.map f) = verdict x := by
  cases x <;> rfl

theorem verdict_mapError {δ : Type} (f : ε → δ) (x : Except ε α) :
    verdict (x.mapError f) = (verdict x).mapError f := by
  cases x <;> rfl

@[simp] theorem ok_mapError {δ : Type} (f : ε → δ) (a : α) :
    (Except.ok a : Except ε α).mapError f = .ok a :=
  rfl

@[simp] theorem error_mapError {δ : Type} (f : ε → δ) (e : ε) :
    (Except.error e : Except ε α).mapError f = .error (f e) :=
  rfl

theorem mapError_ok {δ : Type} {f : ε → δ} {x : Except ε α} {a : α} :
    x.mapError f = .ok a ↔ x = .ok a := by
  cases x <;> simp

theorem mapError_error {δ : Type} {f : ε → δ} {x : Except ε α} {e : δ}
    (h : x.mapError f = .error e) : ∃ e', x = .error e' ∧ e = f e' := by
  cases x with
  | error e' => exact ⟨e', rfl, (Except.error.inj h).symm⟩
  | ok a => cases h

end Results

/-! ## One member -/

/-- What a check makes of a member, by what the object has under its name: a strict form or what
stands in for it, nothing if the member may be missing, or a fault. -/
def Member.settle (m : Member Checker) (path : Path) (found : Option Json) :
    Except SchemaFault (Option Json) :=
  match m.presence, found with
  | .required, none => .error (.missing (path ++ [.member m.name]) m.checker.expected)
  | .optional, none => .ok none
  | .default d, none | .default d, some .null => .ok (some d)
  | _, some value => (m.checker.coerceAt (path ++ [.member m.name]) value).map some

/-- A value goes through the checker, unless it is null and a value stands in. -/
theorem Member.settle_checked {m : Member Checker} {path : Path} {u : Json}
    (hu : u = .null → ∀ d, m.presence ≠ .default d) :
    m.settle path (some u) = (m.checker.coerceAt (path ++ [.member m.name]) u).map some := by
  obtain ⟨name, c, p⟩ := m
  cases p with
  | default d => cases u <;> first | rfl | exact absurd rfl (hu rfl d)
  | _ => rfl

theorem Member.settle_some {m : Member Checker} {path : Path} {u : Json} (hu : u ≠ .null) :
    m.settle path (some u) = (m.checker.coerceAt (path ++ [.member m.name]) u).map some :=
  settle_checked fun hnull => absurd hnull hu

/-- A map with one more entry, if there is a value for it. -/
def SortedMap.insertSome {α : Type} (map : SortedMap α) (key : String) : Option α → SortedMap α
  | none => map
  | some value => map.insert key value

theorem SortedMap.get?_insertSome {α : Type} (map : SortedMap α) (key : String) (value : Option α)
    (name : String) : (map.insertSome key value).get? name =
      if key = name then value <|> map.get? name else map.get? name := by
  cases value with
  | none => simp [insertSome]
  | some v => simp [insertSome]

namespace Checker

variable {members : List (Member Checker)} {path : Path} {entries entries' : List (String × Json)}
  {checked checked' values : SortedMap Json}

theorem checkMembers_cons (m : Member Checker) (rest : List (Member Checker)) (path : Path)
    (entries : List (String × Json)) (checked : SortedMap Json) :
    checkMembers (m :: rest) path entries checked =
      (m.settle path (findEntry m.name entries)).bind fun w =>
        checkMembers rest path entries (checked.insertSome m.name w) := by
  obtain ⟨name, c, presence⟩ := m
  simp only [checkMembers, Member.settle]
  generalize findEntry name entries = found
  -- Only null in place of a standing in value is not handed to the checker.
  cases found with
  | none => cases presence <;> rfl
  | some value =>
    cases hw : c.coerceAt (path ++ [.member name]) value <;> cases presence <;> cases value <;>
      simp only [hw] <;> rfl

/-- The checked members hold the settled values, and nothing else changes. -/
theorem get?_checkMembers (h : checkMembers members path entries checked = .ok values)
    (hnodup : (members.map Member.name).Nodup) :
    (∀ m ∈ members, checked.get? m.name = none →
      m.settle path (findEntry m.name entries) = .ok (values.get? m.name)) ∧
    ∀ name, name ∉ members.map Member.name → values.get? name = checked.get? name := by
  induction members generalizing checked with
  | nil =>
    obtain rfl := Except.ok.inj h
    exact ⟨fun m hm => (nomatch hm), fun _ _ => rfl⟩
  | cons first rest ih =>
    rw [checkMembers_cons] at h
    cases hw : first.settle path (findEntry first.name entries) with
    | error fault =>
      rw [hw] at h
      cases h
    | ok w =>
      rw [hw] at h
      obtain ⟨hfirst, hrest⟩ := List.nodup_cons.mp hnodup
      obtain ⟨hmem, hother⟩ := ih h hrest
      refine ⟨fun m hm hnone => ?_, fun name hname => ?_⟩
      · rcases List.mem_cons.mp hm with rfl | hm
        · rw [hw, hother _ hfirst, SortedMap.get?_insertSome, if_pos rfl, hnone]
          cases w <;> rfl
        · have hne : first.name ≠ m.name := fun heq => hfirst (heq ▸ List.mem_map_of_mem hm)
          refine hmem m hm ?_
          rw [SortedMap.get?_insertSome, if_neg hne, hnone]
      · rw [List.map_cons, List.mem_cons, not_or] at hname
        rw [hother name hname.2, SortedMap.get?_insertSome, if_neg (Ne.symm hname.1)]

/-- If all members settle, the check succeeds. -/
theorem checkMembers_ok
    (h : ∀ m ∈ members, ∃ w, m.settle path (findEntry m.name entries) = .ok w) :
    ∃ values, checkMembers members path entries checked = .ok values := by
  induction members generalizing checked with
  | nil => exact ⟨checked, rfl⟩
  | cons first rest ih =>
    obtain ⟨w, hw⟩ := h first List.mem_cons_self
    rw [checkMembers_cons, hw]
    exact ih fun m hm => h m (List.mem_cons_of_mem _ hm)

/-- The checked members are the settled values and nothing else, in whatever order the members are
declared. -/
theorem checkMembers_eq_ok (hnodup : (members.map Member.name).Nodup) :
    checkMembers members path entries .empty = .ok values ↔
      (∀ m ∈ members, m.settle path (findEntry m.name entries) = .ok (values.get? m.name)) ∧
        ∀ name, name ∉ members.map Member.name → values.get? name = none := by
  constructor
  · intro h
    obtain ⟨hmem, hother⟩ := get?_checkMembers h hnodup
    exact ⟨fun m hm => hmem m hm rfl, hother⟩
  · rintro ⟨hmem, hother⟩
    obtain ⟨values', hvalues'⟩ : ∃ values', checkMembers members path entries .empty = .ok values' :=
      checkMembers_ok fun m hm => ⟨_, hmem m hm⟩
    obtain ⟨hmem', hother'⟩ := get?_checkMembers hvalues' hnodup
    have heq : values' = values := by
      refine SortedMap.ext_get? fun name => ?_
      by_cases hname : name ∈ members.map Member.name
      · obtain ⟨m, hm, rfl⟩ := List.mem_map.mp hname
        exact Except.ok.inj ((hmem' m hm rfl).symm.trans (hmem m hm))
      · rw [hother' name hname, hother name hname]
        rfl
    rw [hvalues', heq]

/-- If all members settle alike, the checks are alike: the same fault, or values in the relation
under every name. -/
theorem checkMembers_alike {R : String → Json → Json → Prop}
    (h : ∀ m ∈ members, Alike (Option.Rel (R m.name)) (m.settle path (findEntry m.name entries))
      (m.settle path (findEntry m.name entries')))
    (hchecked : ∀ name, Option.Rel (R name) (checked.get? name) (checked'.get? name)) :
    Alike (fun values values' => ∀ name, Option.Rel (R name) (values.get? name) (values'.get? name))
      (checkMembers members path entries checked)
      (checkMembers members path entries' checked') := by
  induction members generalizing checked checked' with
  | nil => exact .ok hchecked
  | cons first rest ih =>
    rw [checkMembers_cons, checkMembers_cons]
    refine (h first List.mem_cons_self).bind fun w w' hw => ?_
    refine ih (fun m hm => h m (List.mem_cons_of_mem _ hm)) fun name => ?_
    rw [SortedMap.get?_insertSome, SortedMap.get?_insertSome]
    split
    · rename_i heq
      subst heq
      cases hw with
      | none => exact hchecked _
      | some hw => exact .some hw
    · exact hchecked name

end Checker

/-! ## Records -/

/-- The record holds what the members of a schema settle to in a source. -/
def Record.Holds (record : Record) (schema : Schema) (source : Json) : Prop :=
  ∀ m ∈ schema, ∃ w, m.settle [] (source.get? m.name) = .ok w ∧ record.find m.name = .ok w

/-- **A checked record** holds what the members settle to. -/
theorem Schema.check_holds {schema : Schema} (hnodup : (schema.map Member.name).Nodup)
    {source : Json} {record : Record} (h : schema.check source = .ok record) :
    record.Holds schema source := by
  cases source with
  | object entries =>
    obtain ⟨values, hvalues, rfl⟩ := Checker.map_ok h
    intro m hm
    refine ⟨values.get? m.name, (Checker.get?_checkMembers hvalues hnodup).1 m hm rfl, ?_⟩
    exact if_pos (List.mem_map_of_mem hm)
  | _ => cases h

/-- **An object with another value for one member**, which settles, passes the check if the first
object does, and the records do not differ in the other members. -/
theorem Schema.check_replaced {schema : Schema} (hnodup : (schema.map Member.name).Nodup)
    {m : Member Checker} (hm : m ∈ schema) {entries entries' : List (String × Json)}
    {record : Record} {w : Option Json} (hcheck : schema.check (.object entries) = .ok record)
    (hother : ∀ name, name ≠ m.name → findEntry name entries' = findEntry name entries)
    (hw : m.settle [] (findEntry m.name entries') = .ok w) :
    ∃ record', schema.check (.object entries') = .ok record' ∧ record'.find m.name = .ok w ∧
      ∀ name, name ≠ m.name → record'.find name = record.find name := by
  have hholds := check_holds hnodup hcheck
  have hsettles : ∀ m' ∈ schema, ∃ w', m'.settle [] (findEntry m'.name entries') = .ok w' := by
    intro m' hm'
    by_cases hname : m'.name = m.name
    · obtain rfl : m' = m := List.inj_on_of_nodup_map hnodup hm' hm hname
      exact ⟨w, hw⟩
    · obtain ⟨w', hw', -⟩ := hholds m' hm'
      exact ⟨w', hother _ hname ▸ hw'⟩
  obtain ⟨values', hvalues'⟩ : ∃ values', Checker.checkMembers schema [] entries' .empty =
    .ok values' := Checker.checkMembers_ok hsettles
  have hcheck' : schema.check (.object entries') = .ok ⟨schema.map Member.name, values'⟩ := by
    show (Checker.checkMembers _ [] entries' .empty).map _ = _
    rw [hvalues']
    rfl
  have hholds' := check_holds hnodup hcheck'
  refine ⟨_, hcheck', ?_, fun name hname => ?_⟩
  · obtain ⟨w', hw', hfind⟩ := hholds' m hm
    rw [hfind, ← hw', ← hw]
    rfl
  · by_cases hdeclared : name ∈ schema.map Member.name
    · obtain ⟨m', hm', rfl⟩ := List.mem_map.mp hdeclared
      obtain ⟨u, hu, hfind⟩ := hholds m' hm'
      obtain ⟨u', hu', hfind'⟩ := hholds' m' hm'
      have hsame : m'.settle [] (findEntry m'.name entries') =
          m'.settle [] (findEntry m'.name entries) := by rw [hother _ hname]
      rw [hfind, hfind', ← hu, ← hu']
      exact hsame
    · obtain ⟨values, -, rfl⟩ := Checker.map_ok hcheck
      simp only [Record.find, if_neg hdeclared]

namespace Record

variable {record : Record} {name : String}

theorem string_ok {s : String} (h : record.find name = .ok (some (.string s))) :
    record.string name = .ok s := by
  simp only [string, view, require, h]
  rfl

theorem int_ok {n : Int} (hn : -2 ^ 63 ≤ n ∧ n < 2 ^ 63)
    (h : record.find name = .ok (some (.integer n))) : record.int name = .ok (Int64.ofInt n) := by
  have hview : Json.int64? (.integer n) = some (Int64.ofInt n) := if_pos hn
  simp only [int, view, require, h, bind, Except.bind, pure, Except.pure, hview]

theorem uint_ok {n : Int} (hn : 0 ≤ n ∧ n < 2 ^ 64)
    (h : record.find name = .ok (some (.integer n))) :
    record.uint name = .ok (UInt64.ofNat n.toNat) := by
  have hview : Json.uint64? (.integer n) = some (UInt64.ofNat n.toNat) := if_pos hn
  simp only [uint, view, require, h, bind, Except.bind, pure, Except.pure, hview]

theorem bool_ok {b : Bool} (h : record.find name = .ok (some (.bool b))) :
    record.bool name = .ok b := by
  simp only [bool, view, require, h]
  rfl

theorem value_ok {u : Json} (h : record.find name = .ok (some u)) : record.value name = .ok u := by
  simp only [value, require, h]
  rfl

theorem optValue_ok {found : Option Json} (h : record.find name = .ok found) :
    record.optValue name = .ok (found.filter fun u => !u.isNull) := by
  simp only [optValue, h]
  rfl

theorem textItems_ok (name : String) {ws : List Json}
    (hws : ∀ w ∈ ws, Checker.Strict .string w) (index : Nat) :
    ∃ ss, textItems name index ws = .ok ss := by
  induction ws generalizing index with
  | nil => exact ⟨[], rfl⟩
  | cons w rest ih =>
    obtain ⟨s⟩ := hws w List.mem_cons_self
    obtain ⟨ss, hss⟩ := ih (fun w hw => hws w (List.mem_cons_of_mem _ hw)) (index + 1)
    exact ⟨s :: ss, by simp only [textItems, hss]; rfl⟩

theorem textEntries_ok (name : String) {es : List (String × Json)}
    (hes : ∀ e ∈ es, Checker.Strict .string e.2) (taken : SortedMap String) :
    ∃ map, textEntries name taken es = .ok map := by
  induction es generalizing taken with
  | nil => exact ⟨taken, rfl⟩
  | cons e rest ih =>
    obtain ⟨key, w⟩ := e
    obtain ⟨s⟩ := hes (key, w) List.mem_cons_self
    exact ih (fun e he => hes e (List.mem_cons_of_mem _ he)) _

theorem strings_ok {ws : List Json} (hws : ∀ w ∈ ws, Checker.Strict .string w)
    (h : record.find name = .ok (some (.list ws))) : ∃ a, record.strings name = .ok a := by
  obtain ⟨ss, hss⟩ := textItems_ok name hws 0
  exact ⟨ss, by simp only [strings, optValue, h]; exact hss⟩

theorem stringMap_ok {es : List (String × Json)} (hes : ∀ e ∈ es, Checker.Strict .string e.2)
    (h : record.find name = .ok (some (.object es))) : ∃ a, record.stringMap name = .ok a := by
  obtain ⟨map, hmap⟩ := textEntries_ok name hes .empty
  exact ⟨map, by simp only [stringMap, optValue, h]; exact hmap⟩

end Record

/-! ## Getters -/

/-- Whether the shape is one of those for embedded objects. -/
def Checker.embeds : Checker → Bool
  | .stringMap .any | .oneOf [.null, .stringMap .any] | .list (.stringMap .any) => true
  | _ => false

namespace Member

/-- The typed getter for a member of its shape gives a value. What is embedded has the outer shape
that its reader wants. -/
def Legible (m : Member Checker) (record : Record) : Prop :=
  match m.checker, m.presence with
  | .string, _ => ∃ s, record.string m.name = .ok s
  | .oneOf [.null, .string], .default _ => ∃ s, record.string m.name = .ok s
  | .oneOf [.null, .string], _ => ∃ s, record.optString m.name = .ok s
  | .forcedInt, _ => ∃ n, record.int m.name = .ok n
  | .forcedUint, _ => ∃ n, record.uint m.name = .ok n
  | .bool, _ => ∃ b, record.bool m.name = .ok b
  | .list .string, _ | .oneOf [.null, .list .string], _ => ∃ ss, record.strings m.name = .ok ss
  | .stringMap .string, _ => ∃ map, record.stringMap m.name = .ok map
  | .stringMap .any, .required =>
    ∃ u entries, record.value m.name = .ok u ∧ u.expectObject = .ok entries
  | .stringMap .any, _ | .oneOf [.null, .stringMap .any], _ =>
    ∃ found, record.optValue m.name = .ok found ∧
      ∀ u, found = some u → ∃ entries, u.expectObject = .ok entries
  | .list (.stringMap .any), _ =>
    ∃ found, record.optValue m.name = .ok found ∧
      ∀ u, found = some u → ∃ items, u.expectObjects = .ok items
  | _, _ => ∃ found, record.optValue m.name = .ok found

/-- The getter is the one for members of this shape, which holds no embedded object; it looks at
nothing but its member, and gives a value for all that the member can settle to. Where the member
may be missing, null is as good as nothing. -/
structure ReadBy {α : Type} (checker : Checker) (presence : Presence)
    (get : Record → String → Except SchemaFault α) : Prop where
  plain : checker.embeds = false
  legible_iff : ∀ record name,
    Legible ⟨name, checker, presence⟩ record ↔ ∃ a, get record name = .ok a
  get_congr : ∀ {record record' : Record} {name}, record.find name = record'.find name →
    get record name = get record' name
  get_ok : ∀ {record : Record} {name path found w},
    settle ⟨name, checker, presence⟩ path found = .ok w → record.find name = .ok w →
      ∃ a, get record name = .ok a
  get_null : presence = .optional → ∀ {record record' : Record} {name},
    record.find name = .ok none → record'.find name = .ok (some .null) →
      get record' name = get record name

variable {name : String} {c : Checker} {path : Path} {found w : Option Json} {d : Json}

theorem settle_required (h : settle ⟨name, c, .required⟩ path found = .ok w) :
    ∃ value v, found = some value ∧ c.coerceAt (path ++ [.member name]) value = .ok v ∧
      w = some v := by
  cases found with
  | none => cases h
  | some value =>
    obtain ⟨v, hv, rfl⟩ := Checker.map_ok h
    exact ⟨value, v, rfl, hv, rfl⟩

theorem settle_optional (h : settle ⟨name, c, .optional⟩ path found = .ok w) :
    (found = none ∧ w = none) ∨ ∃ value v, found = some value ∧
      c.coerceAt (path ++ [.member name]) value = .ok v ∧ w = some v := by
  cases found with
  | none => exact .inl ⟨rfl, (Except.ok.inj h).symm⟩
  | some value =>
    obtain ⟨v, hv, rfl⟩ := Checker.map_ok h
    exact .inr ⟨value, v, rfl, hv, rfl⟩

/-- Where a value stands in, null is never handed to the checker. -/
theorem settle_default (h : settle ⟨name, c, .default d⟩ path found = .ok w) :
    ((found = none ∨ found = some .null) ∧ w = some d) ∨ ∃ value v, found = some value ∧
      value ≠ .null ∧ c.coerceAt (path ++ [.member name]) value = .ok v ∧ w = some v := by
  rcases found with _ | value
  · exact .inl ⟨.inl rfl, (Except.ok.inj h).symm⟩
  · by_cases hnull : value = .null
    · subst hnull
      exact .inl ⟨.inr rfl, (Except.ok.inj h).symm⟩
    · rw [settle_some hnull] at h
      obtain ⟨v, hv, rfl⟩ := Checker.map_ok h
      exact .inr ⟨value, v, rfl, hnull, hv, rfl⟩

/-- What settles in a nullable member with a value standing in is that value or has the inner
shape. -/
theorem settle_nullable_default (h : settle ⟨name, .nullable c, .default d⟩ path found = .ok w) :
    w = some d ∨ ∃ v, w = some v ∧ c.Strict v := by
  rcases settle_default h with ⟨-, hd⟩ | ⟨value, v, -, hne, hv, rfl⟩
  · exact .inl hd
  · exact .inr ⟨v, rfl, c.coerceAt_strict (Checker.coerceAt_nullable hne hv)⟩

theorem settle_required_strict (h : settle ⟨name, c, .required⟩ path found = .ok w) :
    ∃ v, w = some v ∧ c.Strict v := by
  obtain ⟨value, v, -, hv, rfl⟩ := settle_required h
  exact ⟨v, rfl, c.coerceAt_strict hv⟩

/-- What is checked as it is stays as it is. -/
theorem settle_kept {Q : Json → Prop} {name : String} {c : Checker} {p : Presence} {path : Path}
    {found w : Option Json}
    (hc : ∀ {path value w}, c.coerceAt path value = .ok w → w = value ∧ Q value)
    (hp : ∀ d, p ≠ .default d) (h : settle ⟨name, c, p⟩ path found = .ok w) :
    w = found ∧ ∀ u, found = some u → Q u := by
  cases p with
  | required =>
    obtain ⟨value, v, rfl, hv, rfl⟩ := settle_required h
    obtain ⟨rfl, hQ⟩ := hc hv
    exact ⟨rfl, fun u hu => Option.some.inj hu ▸ hQ⟩
  | optional =>
    rcases settle_optional h with ⟨rfl, rfl⟩ | ⟨value, v, rfl, hv, rfl⟩
    · exact ⟨rfl, fun u hu => nomatch hu⟩
    · obtain ⟨rfl, hQ⟩ := hc hv
      exact ⟨rfl, fun u hu => Option.some.inj hu ▸ hQ⟩
  | default d => exact absurd rfl (hp d)

namespace ReadBy

theorem text : ReadBy .string .required Record.string where
  plain := rfl
  legible_iff _ _ := Iff.rfl
  get_congr h := by simp only [Record.string, Record.view, Record.require, h]
  get_null h := nomatch h
  get_ok h hfind := by
    obtain ⟨v, rfl, hv⟩ := settle_required_strict h
    cases hv with
    | string s => exact ⟨s, Record.string_ok hfind⟩

theorem textOrEmpty : ReadBy (.nullable .string) (.default (.string "")) Record.string where
  plain := rfl
  legible_iff _ _ := Iff.rfl
  get_congr h := by simp only [Record.string, Record.view, Record.require, h]
  get_null h := nomatch h
  get_ok h hfind := by
    rcases settle_nullable_default h with rfl | ⟨v, rfl, hv⟩
    · exact ⟨"", Record.string_ok hfind⟩
    · cases hv with
      | string s => exact ⟨s, Record.string_ok hfind⟩

theorem optionalText : ReadBy (.nullable .string) .optional Record.optString where
  plain := rfl
  legible_iff _ _ := Iff.rfl
  get_congr h := by simp only [Record.optString, Record.optValue, h]
  get_null _ _ _ _ habsent hnull := by
    simp only [Record.optString, Record.optValue, habsent, hnull]
    rfl
  get_ok h hfind := by
    rcases settle_optional h with ⟨-, rfl⟩ | ⟨value, v, -, hv, rfl⟩
    · exact ⟨none, by simp only [Record.optString, Record.optValue, hfind]; rfl⟩
    · rcases Checker.nullable_strict (Checker.coerceAt_strict _ hv) with rfl | hv
      · exact ⟨none, by simp only [Record.optString, Record.optValue, hfind]; rfl⟩
      · cases hv with
        | string s => exact ⟨some s, by simp only [Record.optString, Record.optValue, hfind]; rfl⟩

theorem int : ReadBy .forcedInt .required Record.int where
  plain := rfl
  legible_iff _ _ := Iff.rfl
  get_congr h := by simp only [Record.int, Record.view, Record.require, h]
  get_null h := nomatch h
  get_ok h hfind := by
    obtain ⟨v, rfl, hv⟩ := settle_required_strict h
    cases hv with
    | forcedInt hn => exact ⟨_, Record.int_ok hn hfind⟩

theorem size : ReadBy .forcedUint .required Record.uint where
  plain := rfl
  legible_iff _ _ := Iff.rfl
  get_congr h := by simp only [Record.uint, Record.view, Record.require, h]
  get_null h := nomatch h
  get_ok h hfind := by
    obtain ⟨v, rfl, hv⟩ := settle_required_strict h
    cases hv with
    | forcedUint hn => exact ⟨_, Record.uint_ok hn hfind⟩

theorem flag : ReadBy .bool .required Record.bool where
  plain := rfl
  legible_iff _ _ := Iff.rfl
  get_congr h := by simp only [Record.bool, Record.view, Record.require, h]
  get_null h := nomatch h
  get_ok h hfind := by
    obtain ⟨v, rfl, hv⟩ := settle_required_strict h
    cases hv with
    | bool b => exact ⟨b, Record.bool_ok hfind⟩

theorem texts : ReadBy (.list .string) .required Record.strings where
  plain := rfl
  legible_iff _ _ := Iff.rfl
  get_congr h := by simp only [Record.strings, Record.optValue, h]
  get_null h := nomatch h
  get_ok h hfind := by
    obtain ⟨v, rfl, hv⟩ := settle_required_strict h
    cases hv with
    | list hws => exact Record.strings_ok hws hfind

theorem textsOrEmpty : ReadBy (.nullable (.list .string)) (.default (.list [])) Record.strings where
  plain := rfl
  legible_iff _ _ := Iff.rfl
  get_congr h := by simp only [Record.strings, Record.optValue, h]
  get_null h := nomatch h
  get_ok h hfind := by
    rcases settle_nullable_default h with rfl | ⟨v, rfl, hv⟩
    · exact Record.strings_ok (List.forall_mem_nil _) hfind
    · cases hv with
      | list hws => exact Record.strings_ok hws hfind

theorem textMapOrEmpty : ReadBy (.stringMap .string) (.default (.object [])) Record.stringMap where
  plain := rfl
  legible_iff _ _ := Iff.rfl
  get_congr h := by simp only [Record.stringMap, Record.optValue, h]
  get_null h := nomatch h
  get_ok h hfind := by
    rcases settle_default h with ⟨-, rfl⟩ | ⟨value, v, -, -, hv, rfl⟩
    · exact Record.stringMap_ok (List.forall_mem_nil _) hfind
    · cases Checker.coerceAt_strict _ hv with
      | stringMap hes => exact Record.stringMap_ok hes hfind

end ReadBy

end Member

/-! ## Members that stay as they are -/

namespace Record.Holds

variable {record : Record} {schema : Schema} {source : Json} {name : String} {c : Checker}

theorem present (h : record.Holds schema source) (hm : ⟨name, c, .required⟩ ∈ schema) :
    ∃ u, source.get? name = some u := by
  obtain ⟨w, hw, -⟩ := h _ hm
  obtain ⟨u, -, hu, -⟩ := Member.settle_required hw
  exact ⟨u, hu⟩

theorem kept {p : Presence} {Q : Json → Prop} (h : record.Holds schema source)
    (hm : ⟨name, c, p⟩ ∈ schema) (hp : ∀ d, p ≠ .default d)
    (hc : ∀ {path value w}, c.coerceAt path value = .ok w → w = value ∧ Q value) :
    record.find name = .ok (source.get? name) ∧ ∀ u, source.get? name = some u → Q u := by
  obtain ⟨w, hw, hfind⟩ := h _ hm
  obtain ⟨rfl, hQ⟩ := Member.settle_kept hc hp hw
  exact ⟨hfind, hQ⟩

theorem append {schema' : Schema} (h : record.Holds (schema ++ schema') source) :
    record.Holds schema source ∧ record.Holds schema' source :=
  List.forall_mem_append.mp h

/-- An embedded object is held as it is, and so is what may stand in its place. -/
theorem objectOrNull {p : Presence} (h : record.Holds schema source)
    (hm : ⟨name, c, p⟩ ∈ schema) (hc : c = .object ∨ c = .nullable .object)
    (hp : ∀ d, p ≠ .default d) :
    record.find name = .ok (source.get? name) ∧
      ∀ u, source.get? name = some u → (u.isNull || u.isObject) = true := by
  rcases hc with rfl | rfl
  · obtain ⟨hfind, hobject⟩ := h.kept hm hp Checker.coerceAt_object_ok
    exact ⟨hfind, fun u hu => by simp [hobject u hu]⟩
  · exact h.kept hm hp Checker.coerceAt_nullable_object_ok

/-- A required text is there, both in the record and in the document. -/
theorem requiredText (h : record.Holds schema source) (hm : ⟨name, .string, .required⟩ ∈ schema) :
    ∃ s, source.get? name = some (.string s) ∧ record.find name = .ok (some (.string s)) := by
  obtain ⟨u, hu⟩ := h.present hm
  obtain ⟨hfind, hstring⟩ := h.kept hm (fun _ => nofun) Checker.coerceAt_string_ok
  obtain ⟨s, rfl⟩ := hstring u hu
  exact ⟨s, hu, hu ▸ hfind⟩

/-- A required object is there, both in the record and in the document. -/
theorem requiredObject (h : record.Holds schema source)
    (hm : ⟨name, .object, .required⟩ ∈ schema) :
    ∃ u, u.isObject = true ∧ source.get? name = some u ∧ record.find name = .ok (some u) := by
  obtain ⟨u, hu⟩ := h.present hm
  obtain ⟨hfind, hobject⟩ := h.kept hm (fun _ => nofun) Checker.coerceAt_object_ok
  exact ⟨u, hobject u hu, hu, hu ▸ hfind⟩

/-- A required list of objects is there, both in the record and in the document. -/
theorem requiredObjects (h : record.Holds schema source)
    (hm : ⟨name, .list .object, .required⟩ ∈ schema) :
    ∃ items, (∀ u ∈ items, u.isObject = true) ∧ source.get? name = some (.list items) ∧
      record.find name = .ok (some (.list items)) := by
  obtain ⟨u, hu⟩ := h.present hm
  obtain ⟨hfind, hlist⟩ := h.kept hm (fun _ => nofun) Checker.coerceAt_objects_ok
  obtain ⟨items, rfl, hobjects⟩ := hlist u hu
  exact ⟨items, hobjects, hu, hu ▸ hfind⟩

end Record.Holds

end RegionClient
