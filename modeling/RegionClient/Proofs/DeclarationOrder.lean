import RegionClient.Proofs.Faults

set_option autoImplicit false

/-! # The order of declarations

The members of an object are checked in the order in which they are declared, and the first fault
ends the check. Nothing else comes of this order. If no name is declared twice, each member settles
by what the object has under its name, whatever was checked before it, and the settled values are
put into a map (`Checker.checkMembers_eq_ok`).

`Checker.Reordered` puts the declarations of a schema in another order, and those of objects inside
of it, at any depth. The two accept the same values with the same strict forms
(`Checker.Reordered.grants`); an object that both refuse may be refused for different members
(`Schema.FailsFirstAt`).

Main statement: `Schema.check_reordered`.
-/

namespace RegionClient

/-! ## Records -/

/-- Two records hold the same value under a name, and answer alike when they are asked for it. -/
structure Record.AnswersAlike (record record' : Record) (name : String) : Prop where
  contains : record.contains name = record'.contains name
  string : record.string name = record'.string name
  optString : record.optString name = record'.optString name
  int : record.int name = record'.int name
  uint : record.uint name = record'.uint name
  bool : record.bool name = record'.bool name
  strings : record.strings name = record'.strings name
  stringMap : record.stringMap name = record'.stringMap name
  value : record.value name = record'.value name
  optValue : record.optValue name = record'.optValue name

/-- Records with the same values answer alike, in whatever order their names were declared. -/
theorem Record.answersAlike {record record' : Record} (hvalues : record.values = record'.values)
    (hdeclared : record.declared.Perm record'.declared) (name : String) :
    record.AnswersAlike record' name := by
  have hfind : record.find name = record'.find name := by
    simp only [find, hvalues, hdeclared.mem_iff]
  exact {
    contains := by rw [contains, contains, hvalues]
    string := Member.ReadBy.text.get_congr hfind
    optString := Member.ReadBy.optionalText.get_congr hfind
    int := Member.ReadBy.int.get_congr hfind
    uint := Member.ReadBy.size.get_congr hfind
    bool := Member.ReadBy.flag.get_congr hfind
    strings := Member.ReadBy.texts.get_congr hfind
    stringMap := Member.ReadBy.textMapOrEmpty.get_congr hfind
    value := by simp only [value, require, hfind]
    optValue := by simp only [optValue, hfind] }

/-! ## Reordered declarations -/

namespace Checker

/-- **Another order of declarations**, in a list of them in which no name occurs twice or in such
lists further inside. -/
inductive Reordered : Checker → Checker → Prop where
  | refl (c : Checker) : Reordered c c
  | trans {c d e : Checker} (h : Reordered c d) (h' : Reordered d e) : Reordered c e
  | permuted {members members' : List (Member Checker)} (hperm : members.Perm members')
      (hnodup : (members.map Member.name).Nodup) : Reordered (.fields members) (.fields members')
  | list {item item' : Checker} (h : Reordered item item') : Reordered (.list item) (.list item')
  | stringMap {item item' : Checker} (h : Reordered item item') :
      Reordered (.stringMap item) (.stringMap item')
  | alternative {before after : List Checker} {c d : Checker} (h : Reordered c d) :
      Reordered (.oneOf (before ++ c :: after)) (.oneOf (before ++ d :: after))
  | member {before after : List (Member Checker)} {name : String} {presence : Presence}
      {c d : Checker} (h : Reordered c d) :
      Reordered (.fields (before ++ ⟨name, c, presence⟩ :: after))
        (.fields (before ++ ⟨name, d, presence⟩ :: after))

theorem permuted_grants {members members' : List (Member Checker)} (hperm : members.Perm members')
    (hnodup : (members.map Member.name).Nodup) : (fields members).Grants (.fields members') := by
  intro path path' v w hw
  -- Both checks are made at one path, for what is accepted there is accepted at the other.
  refine placeless _ path path' v w ?_
  cases v with
  | object entries =>
    obtain ⟨values, hvalues, rfl⟩ := map_ok hw
    obtain ⟨hmem, hother⟩ := (checkMembers_eq_ok hnodup).mp hvalues
    have hnames : (members.map Member.name).Perm (members'.map Member.name) := hperm.map _
    have hvalues' : checkMembers members' path entries .empty = .ok values :=
      (checkMembers_eq_ok (hnames.nodup_iff.mp hnodup)).mpr
        ⟨fun m hm => hmem m (hperm.mem_iff.mpr hm),
          fun name hname => hother name fun hin => hname (hnames.mem_iff.mp hin)⟩
    rw [coerceAt, hvalues']
    rfl
  | _ => cases hw

/-- Lists with a difference in one place are related place by place. -/
theorem forall₂_at {α : Type} {R : α → α → Prop} (hR : ∀ a, R a a) (before after : List α) {a b : α}
    (hab : R a b) : List.Forall₂ R (before ++ a :: after) (before ++ b :: after) :=
  List.rel_append (List.forall₂_same.mpr fun a _ => hR a)
    (.cons hab (List.forall₂_same.mpr fun a _ => hR a))

namespace Reordered

variable {c d : Checker}

/-- **The order does not matter to what is accepted**, and to what its strict form is. -/
theorem grants (h : c.Reordered d) : c.Grants d ∧ d.Grants c := by
  induction h with
  | refl c => exact ⟨c.placeless, c.placeless⟩
  | trans _ _ ih ih' => exact ⟨ih.1.trans ih'.1, ih'.2.trans ih.2⟩
  | permuted hperm hnodup =>
    exact ⟨permuted_grants hperm hnodup,
      permuted_grants hperm.symm ((hperm.map _).nodup_iff.mp hnodup)⟩
  | list _ ih => exact ⟨ih.1.list, ih.2.list⟩
  | stringMap _ ih => exact ⟨ih.1.stringMap, ih.2.stringMap⟩
  | @alternative before after _ _ _ ih =>
    have hsame : ∀ c : Checker, c.Grants c ∧ c.Grants c := fun c => ⟨c.placeless, c.placeless⟩
    exact ⟨.oneOf (forall₂_at hsame before after ih), .oneOf (forall₂_at hsame before after ih.symm)⟩
  | @member before after _ _ _ _ _ ih =>
    have hsame : ∀ m : Member Checker, m.Grants m := fun m => ⟨rfl, rfl, m.checker.placeless⟩
    exact ⟨.fields (forall₂_at hsame before after ⟨rfl, rfl, ih.1⟩),
      .fields (forall₂_at hsame before after ⟨rfl, rfl, ih.2⟩)⟩

/-- What is accepted, and as what, is the same. -/
theorem coerce_ok (h : c.Reordered d) {v w : Json} : c.coerce v = .ok w ↔ d.coerce v = .ok w :=
  ⟨h.grants.1 [] [] v w, h.grants.2 [] [] v w⟩

end Reordered

/-- The names that are declared for an object. -/
def names : Checker → List String
  | fields members => members.map Member.name
  | _ => []

theorem Reordered.names_perm {c d : Checker} (h : c.Reordered d) : c.names.Perm d.names := by
  induction h with
  | refl c => exact .refl _
  | trans _ _ ih ih' => exact ih.trans ih'
  | permuted hperm _ => exact hperm.map _
  | member _ _ => simp only [names, List.map_append, List.map_cons, List.Perm.refl]
  | _ => exact .refl _

end Checker

/-! ## The first fault -/

/-- The fault is that of the first declaration which fails: those before it pass, and the fault is
the one that it gives when it is checked alone. -/
def Schema.FailsFirstAt (schema : Schema) (source : Json) (fault : SchemaFault) : Prop :=
  ∃ before m after, schema = before ++ m :: after ∧
    (∀ b ∈ before, ∃ record, Schema.check [b] source = .ok record) ∧
      Schema.check [m] source = .error fault

theorem Schema.check_singleton (m : Member Checker) (entries : List (String × Json)) :
    Schema.check [m] (.object entries) = (m.settle [] (findEntry m.name entries)).map fun w =>
      ⟨[m.name], SortedMap.empty.insertSome m.name w⟩ := by
  show (Checker.checkMembers [m] [] entries .empty).map _ = _
  rw [Checker.checkMembers_cons]
  cases m.settle [] (findEntry m.name entries) <;> rfl

/-- An object is refused for the first declaration that fails. -/
theorem Schema.failsFirstAt {schema : Schema} {entries : List (String × Json)} {fault : SchemaFault}
    (h : schema.check (.object entries) = .error fault) :
    schema.FailsFirstAt (.object entries) fault := by
  obtain ⟨before, m, after, rfl, hbefore, hm⟩ := Checker.checkMembers_error (map_error.mp h)
  refine ⟨before, m, after, rfl, ?_, ?_⟩
  · intro b hb
    obtain ⟨w, hw⟩ := hbefore b hb
    rw [check_singleton, hw]
    exact ⟨_, rfl⟩
  · rw [check_singleton, hm]
    rfl

/-! ## Schemas -/

/-- **The order of declarations does not matter.** Of two schemas that differ in it, as a whole
(`Checker.Reordered.permuted`) or further inside, both accept a source or neither does. Where they
accept it, the records hold the same values under the same names, and all getters answer alike. Where
they refuse it, the choice of the fault is all that may differ: each reports that of the first
declaration to fail. -/
theorem Schema.check_reordered {schema schema' : Schema}
    (h : (Checker.fields schema).Reordered (.fields schema')) (source : Json) :
    ((∃ record, schema.check source = .ok record) ↔
      ∃ record', schema'.check source = .ok record') ∧
    (∀ record record', schema.check source = .ok record → schema'.check source = .ok record' →
      record.values = record'.values ∧ ∀ name, record.AnswersAlike record' name) ∧
    ∀ fault fault', schema.check source = .error fault → schema'.check source = .error fault' →
      fault = fault' ∨ schema.FailsFirstAt source fault ∧ schema'.FailsFirstAt source fault' := by
  refine ⟨⟨?_, ?_⟩, ?_, ?_⟩
  · rintro ⟨_, hrecord⟩
    obtain ⟨values, rfl, hvalues⟩ := check_ok.mp hrecord
    exact ⟨_, check_ok.mpr ⟨values, rfl, h.coerce_ok.mp hvalues⟩⟩
  · rintro ⟨_, hrecord⟩
    obtain ⟨values, rfl, hvalues⟩ := check_ok.mp hrecord
    exact ⟨_, check_ok.mpr ⟨values, rfl, h.coerce_ok.mpr hvalues⟩⟩
  · intro record record' hrecord hrecord'
    obtain ⟨values, rfl, hvalues⟩ := check_ok.mp hrecord
    obtain ⟨values', rfl, hvalues'⟩ := check_ok.mp hrecord'
    have hsame : Json.object values.entries = .object values'.entries :=
      Except.ok.inj ((h.coerce_ok.mp hvalues).symm.trans hvalues')
    have hmap : values = values' := SortedMap.ext (Json.object.inj hsame)
    exact ⟨hmap, Record.answersAlike hmap h.names_perm⟩
  · intro fault fault' hfault hfault'
    cases source with
    | object entries => exact .inr ⟨failsFirstAt hfault, failsFirstAt hfault'⟩
    | _ => exact .inl (Except.error.inj (hfault.symm.trans hfault'))

namespace Schema

/-- A name, and a zone with a number and a name. -/
def namedFirst : Schema :=
  [⟨"name", .nullable .string, .default (.string "")⟩,
    ⟨"zone", .fields [⟨"id", .forcedInt, .required⟩, ⟨"name", .string, .optional⟩], .required⟩]

/-- The same declarations, with both orders turned round. -/
def zonedFirst : Schema :=
  [⟨"zone", .fields [⟨"name", .string, .optional⟩, ⟨"id", .forcedInt, .required⟩], .required⟩,
    ⟨"name", .nullable .string, .default (.string "")⟩]

theorem check_reordered_nested :
    let accepted := Json.object [("name", .null), ("zone", .object [("id", .integer 4)])]
    let refused := Json.object [("name", .bool true), ("zone", .object [])]
    let unnamed := SchemaFault.mismatch [.member "name"] "null or string" (.bool true)
    let unnumbered := SchemaFault.missing [.member "zone", .member "id"] "int"
    (Checker.fields namedFirst).Reordered (.fields zonedFirst) ∧
      (∃ record record', namedFirst.check accepted = .ok record ∧
        zonedFirst.check accepted = .ok record' ∧ record.values = record'.values ∧
          ∀ name, record.AnswersAlike record' name) ∧
      namedFirst.check refused = .error unnamed ∧ zonedFirst.check refused = .error unnumbered ∧
      namedFirst.FailsFirstAt refused unnamed ∧ zonedFirst.FailsFirstAt refused unnumbered := by
  intro accepted refused unnamed unnumbered
  have hreordered : (Checker.fields namedFirst).Reordered (.fields zonedFirst) :=
    .trans (.permuted (.swap _ _ _) (by decide))
      (@Checker.Reordered.member [] [_] _ _ _ _ (.permuted (.swap _ _ _) (by decide)))
  obtain ⟨record, hrecord⟩ : ∃ record, namedFirst.check accepted = .ok record := ⟨_, rfl⟩
  obtain ⟨record', hrecord'⟩ := (check_reordered hreordered accepted).1.mp ⟨record, hrecord⟩
  have hunnamed : namedFirst.check refused = .error unnamed := rfl
  have hunnumbered : zonedFirst.check refused = .error unnumbered := rfl
  have hdifferent : unnamed ≠ unnumbered := fun h => nomatch congrArg (·.path.length) h
  exact ⟨hreordered, ⟨record, record', hrecord, hrecord',
      (check_reordered hreordered accepted).2.1 record record' hrecord hrecord'⟩,
    hunnamed, hunnumbered,
    ((check_reordered hreordered refused).2.2 _ _ hunnamed hunnumbered).resolve_left hdifferent⟩

end Schema

end RegionClient
