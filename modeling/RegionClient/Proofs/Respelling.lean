import Mathlib.Data.List.Nodup
import Mathlib.Logic.Relation
import RegionClient.Proofs.Culprits
import RegionClient.Proofs.Interchange
import RegionClient.Proofs.Texts

set_option autoImplicit false

/-! # Wire forms that mean the same

A member with a value standing in may be left out, be null or have that value; a forced integer may
be a number or the text of one, with blanks around it. `Restated` says that one such member was
written in another way, in a document or anywhere among the objects it embeds, and
`Kind.restated_alike` that documents which differ in any number of such places read alike.
-/

namespace RegionClient

/-! ## One member -/

/-- The text is the decimal numeral of a number, with any blanks around it. -/
def Spells (n : Int) (s : String) : Prop :=
  ∃ before after : List Char, (∀ c ∈ before, Text.isBlank c = true) ∧
    (∀ c ∈ after, Text.isBlank c = true) ∧
      s.toList = before ++ (Numeral.ofInt n).toList ++ after

/-- Two ways to write a member that mean the same. -/
inductive Member.Synonyms (m : Member Checker) : Option Json → Option Json → Prop where
  /-- The value standing in, null, and nothing, any of the three for any other. -/
  | standing {d : Json} {found found' : Option Json} (hm : m.presence = .default d)
      (h : found ∈ [none, some .null, some d]) (h' : found' ∈ [none, some .null, some d]) :
      m.Synonyms found found'
  /-- A signed integer, and its numeral. -/
  | signed {n : Int} {s : String} (hm : m.checker = .forcedInt) (hn : -2 ^ 63 ≤ n ∧ n < 2 ^ 63)
      (hs : Spells n s) : m.Synonyms (some (.integer n)) (some (.string s))
  /-- An unsigned integer, and its numeral. -/
  | unsigned {n : Int} {s : String} (hm : m.checker = .forcedUint) (hn : 0 ≤ n ∧ n < 2 ^ 64)
      (hs : Spells n s) : m.Synonyms (some (.integer n)) (some (.string s))

theorem Spells.trimmed {n : Int} {s : String} (h : Spells n s) :
    Text.trimmed s.toList = (Numeral.ofInt n).toList := by
  obtain ⟨before, after, hbefore, hafter, hs⟩ := h
  rw [hs, Text.trimmed_padded _ hbefore hafter,
    Text.trimmed_of_no_blank (Numeral.not_isBlank_ofInt n)]

namespace Checker

theorem forcedInt?_spells {n : Int} {s : String} (hn : -2 ^ 63 ≤ n ∧ n < 2 ^ 63)
    (hs : Spells n s) : forcedInt? (.string s) = some n := by
  rw [forcedInt?, hs.trimmed, Numeral.signed?_ofInt hn]
  rfl

theorem forcedUint?_spells {n : Int} {s : String} (hn : 0 ≤ n ∧ n < 2 ^ 64)
    (hs : Spells n s) : forcedUint? (.string s) = some n := by
  rw [forcedUint?, hs.trimmed, Numeral.unsigned?_ofInt hn]
  exact congrArg some (Int.toNat_of_nonneg hn.1)

/-- The numeral of a number in range goes for the number. -/
theorem coerceAt_forcedInt_spells {n : Int} {s : String} (hn : -2 ^ 63 ≤ n ∧ n < 2 ^ 63)
    (hs : Spells n s) (path : Path) :
    coerceAt .forcedInt path (.string s) = coerceAt .forcedInt path (.integer n) := by
  have hinteger : forcedInt? (.integer n) = some n := if_pos hn
  rw [coerceAt, coerceAt, integerOr_some (forcedInt?_spells hn hs), integerOr_some hinteger]

theorem coerceAt_forcedUint_spells {n : Int} {s : String} (hn : 0 ≤ n ∧ n < 2 ^ 64)
    (hs : Spells n s) (path : Path) :
    coerceAt .forcedUint path (.string s) = coerceAt .forcedUint path (.integer n) := by
  have hinteger : forcedUint? (.integer n) = some n := if_pos hn
  rw [coerceAt, coerceAt, integerOr_some (forcedUint?_spells hn hs), integerOr_some hinteger]

end Checker

/-! ## Values that stand in -/

namespace Member

/-- The value that stands in for a member is one that its checker leaves as it is. -/
def defaultFits : Member Checker → Bool
  | ⟨_, .oneOf [.null, .string], .default (.string _)⟩
  | ⟨_, .oneOf [.null, .list .string], .default (.list [])⟩
  | ⟨_, .stringMap .string, .default (.object [])⟩ => true
  | ⟨_, _, .default _⟩ => false
  | _ => true

variable {m : Member Checker} {found found' : Option Json} {d : Json} {path : Path}

theorem coerceAt_default (hfits : m.defaultFits = true) (hd : m.presence = .default d) :
    m.checker.coerceAt path d = .ok d := by
  obtain ⟨name, c, p⟩ := m
  obtain rfl : p = .default d := hd
  -- One case for each line of `defaultFits`.
  unfold defaultFits at hfits
  split at hfits
  · rename_i h
    cases h
    rfl
  · rename_i h
    cases h
    rfl
  · rename_i h
    cases h
    rfl
  · cases hfits
  · rename_i hother
    exact absurd rfl (hother _ _ _)

theorem settle_standing (hfits : m.defaultFits = true) (hd : m.presence = .default d)
    (hfound : found ∈ [none, some .null, some d]) : m.settle path found = .ok (some d) := by
  have hcheck : m.checker.coerceAt (path ++ [.member m.name]) d = .ok d := coerceAt_default hfits hd
  obtain ⟨name, c, p⟩ := m
  obtain rfl : p = .default d := hd
  simp only [List.mem_cons, List.not_mem_nil, or_false] at hfound
  rcases hfound with rfl | rfl | rfl
  · rfl
  · rfl
  · cases d <;> first | rfl | exact congrArg (Except.map some) hcheck

/-- **A member settles alike** however it is written. -/
theorem settle_synonyms (hfits : m.defaultFits = true) (h : m.Synonyms found found') :
    m.settle path found' = m.settle path found := by
  cases h with
  | standing hd hfound hfound' =>
    rw [settle_standing hfits hd hfound, settle_standing hfits hd hfound']
  | signed hm hn hs =>
    rw [settle_some (by simp), settle_some (by simp), hm, Checker.coerceAt_forcedInt_spells hn hs]
  | unsigned hm hn hs =>
    rw [settle_some (by simp), settle_some (by simp), hm, Checker.coerceAt_forcedUint_spells hn hs]

end Member

theorem Kind.defaults_fit (k : Kind) : ∀ m ∈ k.schema, m.defaultFits = true := by
  cases k <;> decide

/-! ## Whole documents -/

/-- One member is written in another way, in the document itself or in an object that it embeds. -/
inductive Restated : Held → Json → Json → Prop where
  /-- A member of the object itself. -/
  | member {k : Kind} {m : Member Checker} {entries entries' : List (String × Json)}
      (hm : m ∈ k.schema) (h : m.Synonyms (findEntry m.name entries) (findEntry m.name entries'))
      (hother : ∀ name, name ≠ m.name → findEntry name entries' = findEntry name entries) :
      Restated (.object k) (.object entries) (.object entries')
  /-- Somewhere in what a member embeds. -/
  | inside {k : Kind} {name : String} {entries entries' : List (String × Json)} {u u' : Json}
      (hu : findEntry name entries = some u) (hu' : findEntry name entries' = some u')
      (h : Restated (k.held name) u u')
      (hother : ∀ other, other ≠ name → findEntry other entries' = findEntry other entries) :
      Restated (.object k) (.object entries) (.object entries')
  /-- Somewhere in an item of a list. -/
  | item {k : Kind} (before after : List Json) {u u' : Json} (h : Restated (.object k) u u') :
      Restated (.objects k) (.list (before ++ u :: after)) (.list (before ++ u' :: after))

/-- Objects settle alike if one of their members is written in another way. -/
theorem Kind.settlesAlike_member {k : Kind} {m : Member Checker}
    {entries entries' : List (String × Json)} (hm : m ∈ k.schema)
    (h : m.Synonyms (findEntry m.name entries) (findEntry m.name entries'))
    (hother : ∀ name, name ≠ m.name → findEntry name entries' = findEntry name entries)
    (v : Version) : k.SettlesAlike v v entries entries' := by
  intro m' hm'
  have hsettle : m'.settle [] (findEntry m'.name entries') =
      m'.settle [] (findEntry m'.name entries) := by
    by_cases hname : m'.name = m.name
    · obtain rfl : m' = m := List.inj_on_of_nodup_map k.names_nodup hm' hm hname
      exact Member.settle_synonyms (k.defaults_fit _ hm) h
    · rw [hother _ hname]
  rw [hsettle]
  exact .refl (optionRel_same (.refl _ v)) _

/-- **One step**: a document and one in which a member is written in another way may stand for each
other. -/
theorem Restated.interchange {h : Held} {u u' : Json} (hr : Restated h u u') (v : Version) :
    h.Interchange v v u u' := by
  induction hr with
  | member hm hsyn hother =>
    have hsettle := Kind.settlesAlike_member hm hsyn hother v
    exact .object (Kind.interchangeable_object (.refl v) hsettle)
  | @inside k name entries entries' u u' hu hu' _ hother ih =>
    refine .object (Kind.interchangeable_of_members (.refl v) fun m hm => ?_)
    by_cases hname : m.name = name
    · subst hname
      rw [hu, hu']
      exact .some ih
    · rw [hother _ hname]
      exact optionRel_same (.refl _ v) _
  | @item k before after u u' _ ih =>
    cases ih with
    | object hu =>
      have hsame (us : List Json) : List.Forall₂ (k.Interchangeable v v) us us :=
        List.forall₂_same.mpr fun w _ => .refl k v w
      exact .objects (List.rel_append (hsame before) (.cons hu (hsame after)))

/-- What no step changes is the same at both ends of any number of steps, there and back. -/
theorem eq_of_eqvGen {α β : Type} {R : α → α → Prop} {f : α → β}
    (hstep : ∀ a b, R a b → f b = f a) {a b : α} (h : Relation.EqvGen R a b) : f b = f a := by
  induction h with
  | rel a b hab => exact hstep a b hab
  | refl a => rfl
  | symm a b _ ih => exact ih.symm
  | trans a b c _ _ ihab ihbc => exact ihbc.trans ihab

namespace Kind

/-- **Documents that mean the same read alike**, for any kind and version, alone or in a list: with
any number of members written in another way, at any depth, they give the same resource or the same
error. -/
theorem restated_alike (k : Kind) (v : Version) :
    (∀ source source', Relation.EqvGen (Restated (.object k)) source source' →
      k.reader.read v source' = k.reader.read v source) ∧
    ∀ source source', Relation.EqvGen (Restated (.objects k)) source source' →
      k.reader.readList v source' = k.reader.readList v source := by
  refine ⟨fun source source' => eq_of_eqvGen fun u u' (hr : Restated (.object k) u u') => ?_,
    fun source source' => eq_of_eqvGen fun u u' (hr : Restated (.objects k) u u') => ?_⟩
  · cases hr.interchange v with
    | object h => exact h.read_eq
  · exact readList_alike (.refl v) (hr.interchange v)

end Kind

/-- The members of a fabric, with a frame size as a text. -/
def respelledEntries : List (String × Json) :=
  [("id", .integer 0), ("name", .string "fabric-0"), ("resource_uri", .string "/fabrics/0/"),
    ("vlans", .list [networkDocument (.string "\t1500 "), networkDocument .null])]

/-- The document of a fabric that says it has no class, with a frame size as a text. -/
def respelledDocument : Json :=
  .object (("class_type", .null) :: respelledEntries)

theorem Kind.restated_alike_fabric :
    Relation.EqvGen (Restated (.object .fabric)) fabricDocument respelledDocument ∧
    Kind.fabric.reader.read .v2_0 respelledDocument =
      Kind.fabric.reader.read .v2_0 fabricDocument ∧
    Relation.EqvGen (Restated (.objects .fabric)) (.list [fabricDocument])
      (.list [respelledDocument]) ∧
    Kind.fabric.reader.readList .v2_0 (.list [respelledDocument]) =
      Kind.fabric.reader.readList .v2_0 (.list [fabricDocument]) := by
  have hspells : Spells 1500 "\t1500 " := ⟨['\t'], [' '],
    List.forall_mem_singleton.2 rfl, List.forall_mem_singleton.2 rfl, by decide⟩
  have hnetwork : Restated (.object .vlan) (networkDocument (.integer 1500))
      (networkDocument (.string "\t1500 ")) := by
    refine .member (m := ⟨"mtu", .forcedInt, .required⟩) (List.mem_of_getElem? (i := 5) rfl)
      (.signed rfl (by decide) hspells) fun name hname => ?_
    simp [findEntry, hname.symm]
  -- First the frame size inside the list of networks, and then the class.
  have hinside : Restated (.object .fabric) fabricDocument (.object respelledEntries) := by
    refine @Restated.inside .fabric "vlans" _ _ _ _ rfl rfl
      (.item [] [networkDocument .null] hnetwork) fun name hname => ?_
    simp [respelledEntries, findEntry, hname.symm]
  have hclass : Restated (.object .fabric) (.object respelledEntries) respelledDocument := by
    refine .member (m := ⟨"class_type", .nullable .string, .default (.string "")⟩)
      (List.mem_of_getElem? (i := 3) rfl) (.standing rfl ?_ ?_) fun name hname => ?_
    · exact List.mem_cons_self
    · exact List.mem_cons_of_mem _ List.mem_cons_self
    · simp [findEntry, hname.symm]
  have hdocument := (Relation.EqvGen.rel _ _ hinside).trans _ _ _ (.rel _ _ hclass)
  have hlist := (Relation.EqvGen.rel _ _ (Restated.item [] [] hinside)).trans _ _ _
    (.rel _ _ (.item [] [] hclass))
  exact ⟨hdocument, (Kind.restated_alike .fabric .v2_0).1 _ _ hdocument, hlist,
    (Kind.restated_alike .fabric .v2_0).2 _ _ hlist⟩

end RegionClient
