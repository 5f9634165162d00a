import Mathlib.Data.List.Forall2
import RegionClient.Proofs.Stages

set_option autoImplicit false

/-! # Interchangeable documents

Two documents are interchangeable for a kind if its reader makes the same of both, be it a resource
or an error. `Kind.interchangeable_object` says that this is decided member by member: two objects
are interchangeable if each declared member settles alike in both, apart from embedded objects that
are interchangeable themselves. So whoever compares two runs of a reader has only to compare the
members of one object, and what is embedded enters as the hypothesis of an induction.

The two runs may be for two versions, as long as there are readers for both.
-/

namespace RegionClient

/-! ## Versions -/

/-- The readers have the same entries for both versions: they are one version, or both are
supported. -/
def Version.Akin (v v' : Version) : Prop :=
  v' = v ∨ Version.v2_0 ≤ v ∧ Version.v2_0 ≤ v'

theorem Version.Akin.refl (v : Version) : v.Akin v :=
  .inl rfl

theorem Version.Akin.supported {v v' : Version} (h : v.Akin v') (hv : Version.v2_0 ≤ v) :
    Version.v2_0 ≤ v' := by
  rcases h with rfl | ⟨-, hv'⟩
  · exact hv
  · exact hv'

theorem Version.Akin.eq_of_unsupported {v v' : Version} (h : v.Akin v')
    (hv : ¬ Version.v2_0 ≤ v) : v' = v := by
  rcases h with rfl | ⟨hsupported, -⟩
  · rfl
  · exact absurd hsupported hv

namespace Kind

variable (k : Kind) {v : Version}

/-- Before the first reader nothing but the outer shape of a document is looked at. -/
theorem read_before (hv : ¬ Version.v2_0 ≤ v) (source : Json) :
    k.reader.read v source = (source.expectObject.mapError k.reader.outerError).bind fun _ =>
      .error (.unsupportedVersion k.typeName v) := by
  rw [Reader.read, select_reader_before k hv]
  cases source.expectObject <;> rfl

theorem readList_before (hv : ¬ Version.v2_0 ≤ v) (source : Json) :
    k.reader.readList v source = (source.expectObjects.mapError k.reader.outerError).bind fun _ =>
      .error (.unsupportedVersion k.typeName v) := by
  rw [Reader.readList, select_reader_before k hv]
  cases source.expectObjects <;> rfl

end Kind

/-! ## What is held where -/

/-- What a declared member holds. -/
inductive Held where
  /-- Nothing that a reader is handed. -/
  | plain
  | object (kind : Kind)
  | objects (kind : Kind)
  deriving DecidableEq

namespace Held

/-- The declaration of a member suits what the member holds: what is embedded goes through its
checker as it is, and nothing stands in for it. -/
def suits : Held → Member Checker → Bool
  | plain, _ => true
  | object _, ⟨_, .stringMap .any, .required⟩
  | object _, ⟨_, .stringMap .any, .optional⟩
  | object _, ⟨_, .oneOf [.null, .stringMap .any], .required⟩
  | object _, ⟨_, .oneOf [.null, .stringMap .any], .optional⟩
  | objects _, ⟨_, .list (.stringMap .any), .required⟩ => true
  | _, _ => false

/-- The kind of what is held, if a reader is handed it. -/
def kind? : Held → Option Kind
  | plain => none
  | object kind | objects kind => some kind

theorem eq_plain {h : Held} {m : Member Checker} (hsuits : h.suits m = true)
    (hplain : m.checker.embeds = false) : h = .plain := by
  unfold Held.suits at hsuits
  split at hsuits <;> first | rfl | cases hplain | cases hsuits

end Held

/-- What the members of a slot hold. -/
def Slot.held : Slot → Held
  | one _ kind | batch _ _ kind => .object kind
  | many _ kind => .objects kind

namespace Kind

/-- What a member of a kind holds. -/
def held (k : Kind) (name : String) : Held :=
  ((k.slots.find? fun s => name ∈ s.fields).map Slot.held).getD .plain

theorem held_slot (k : Kind) : ∀ s ∈ k.slots, ∀ field ∈ s.fields, k.held field = s.held := by
  cases k <;> decide

theorem held_suits (k : Kind) : ∀ m ∈ k.schema, (k.held m.name).suits m = true := by
  cases k <;> decide

/-- What a member holds is of a kind that the kind embeds. -/
theorem held_kind {k kind : Kind} {name : String} (h : (k.held name).kind? = some kind) :
    ∃ s ∈ k.slots, s.kind = kind := by
  unfold held at h
  cases hfind : k.slots.find? fun s => name ∈ s.fields with
  | none =>
    rw [hfind] at h
    cases h
  | some s =>
    rw [hfind] at h
    refine ⟨s, List.mem_of_find?_eq_some hfind, ?_⟩
    cases s <;> exact Option.some.inj h

end Kind

/-! ## Interchangeable values -/

/-- One value may stand for the other where a resource of a kind is embedded: they do not differ in
shape, and the reader makes the same of both. -/
structure Kind.Interchangeable (k : Kind) (v v' : Version) (u u' : Json) : Prop where
  shape : u' = u ∨ u.isObject = true ∧ u'.isObject = true
  read_eq : k.reader.read v' u' = k.reader.read v u

namespace Kind.Interchangeable

variable {k : Kind} {v v' : Version} {u u' : Json}

theorem refl (k : Kind) (v : Version) (u : Json) : k.Interchangeable v v u u :=
  ⟨.inl rfl, rfl⟩

/-- What is no object is refused for its shape, before any version is looked at. -/
theorem of_no_object (k : Kind) (v v' : Version) (hu : u.isObject = false) :
    k.Interchangeable v v' u u := by
  refine ⟨.inl rfl, ?_⟩
  cases u with
  | object entries => cases hu
  | _ => rfl

theorem isObject_eq (h : k.Interchangeable v v' u u') : u'.isObject = u.isObject := by
  rcases h.shape with rfl | ⟨hu, hu'⟩
  · rfl
  · rw [hu, hu']

theorem isNull_eq (h : k.Interchangeable v v' u u') : u'.isNull = u.isNull := by
  rcases h.shape with rfl | ⟨hu, hu'⟩
  · rfl
  · obtain ⟨entries, rfl⟩ := Json.isObject_iff.mp hu
    obtain ⟨entries', rfl⟩ := Json.isObject_iff.mp hu'
    rfl

theorem mismatch_eq (h : k.Interchangeable v v' u u') (path : Path) (expected : String) :
    SchemaFault.mismatch path expected u' = SchemaFault.mismatch path expected u := by
  rcases h.shape with rfl | ⟨hu, hu'⟩
  · rfl
  · obtain ⟨entries, rfl⟩ := Json.isObject_iff.mp hu
    obtain ⟨entries', rfl⟩ := Json.isObject_iff.mp hu'
    rfl

/-- The first item that is no object is the same item at the same position. -/
theorem firstOther_eq {us us' : List Json} (h : List.Forall₂ (k.Interchangeable v v') us us')
    (index : Nat) : Json.firstOther index us' = Json.firstOther index us := by
  induction h generalizing index with
  | nil => rfl
  | cons hu _ ih =>
    rw [Json.firstOther, Json.firstOther, hu.isObject_eq, ih]
    rcases hu.shape with rfl | ⟨hobject, -⟩
    · rfl
    · rw [if_pos hobject, if_pos hobject]

end Kind.Interchangeable

/-- What a member holds may stand for what it holds in the other run. -/
inductive Held.Interchange (v v' : Version) : Held → Json → Json → Prop where
  | plain (u : Json) : Interchange v v' .plain u u
  | object {kind : Kind} {u u' : Json} (h : kind.Interchangeable v v' u u') :
      Interchange v v' (.object kind) u u'
  | objects {kind : Kind} {us us' : List Json}
      (h : List.Forall₂ (kind.Interchangeable v v') us us') :
      Interchange v v' (.objects kind) (.list us) (.list us')
  | noList (kind : Kind) {u : Json} (hu : u.list? = none) : Interchange v v' (.objects kind) u u

namespace Held.Interchange

variable {v v' : Version}

/-- A value may stand for itself if every embedded one may. -/
theorem same {h : Held}
    (hkind : ∀ kind, h.kind? = some kind → ∀ u, kind.Interchangeable v v' u u) (u : Json) :
    h.Interchange v v' u u := by
  cases h with
  | plain => exact .plain u
  | object kind => exact .object (hkind kind rfl u)
  | objects kind =>
    cases u with
    | list us => exact .objects (List.forall₂_same.mpr fun u _ => hkind kind rfl u)
    | _ => exact .noList kind rfl

theorem refl (h : Held) (v : Version) (u : Json) : h.Interchange v v u u :=
  same (fun kind _ u => .refl kind v u) u

theorem isNull_eq {h : Held} {u u' : Json} (hu : h.Interchange v v' u u') :
    u'.isNull = u.isNull := by
  cases hu with
  | object hu => exact hu.isNull_eq
  | _ => rfl

theorem eq_of_plain {found found' : Option Json}
    (h : Option.Rel (Held.Interchange v v' .plain) found found') : found' = found := by
  cases h with
  | none => rfl
  | some hu =>
    cases hu with
    | plain u => rfl

end Held.Interchange

theorem optionRel_same {α : Type} {R : α → α → Prop} (h : ∀ a, R a a) (found : Option α) :
    Option.Rel R found found := by
  cases found with
  | none => exact .none
  | some a => exact .some (h a)

/-! ## Checks -/

namespace Checker

variable {v v' : Version} {kind : Kind} {u u' : Json} (path : Path)

theorem coerceAt_object_alike (h : kind.Interchangeable v v' u u') :
    Alike (Held.Interchange v v' (.object kind)) (coerceAt .object path u)
      (coerceAt .object path u') := by
  rw [coerceAt_object, coerceAt_object, h.isObject_eq, h.mismatch_eq]
  split
  · exact .ok (.object h)
  · exact .error _

theorem coerceAt_nullable_object_alike (h : kind.Interchangeable v v' u u') :
    Alike (Held.Interchange v v' (.object kind)) (coerceAt (.nullable .object) path u)
      (coerceAt (.nullable .object) path u') := by
  rw [coerceAt_nullable_object, coerceAt_nullable_object, h.isObject_eq, h.isNull_eq,
    h.mismatch_eq]
  split
  · exact .ok (.object h)
  · exact .error _

theorem coerceAt_objects_alike (h : Held.Interchange v v' (.objects kind) u u') :
    Alike (Held.Interchange v v' (.objects kind)) (coerceAt (.list .object) path u)
      (coerceAt (.list .object) path u') := by
  cases h with
  | objects hitems =>
    rw [coerceAt_objects, coerceAt_objects, Kind.Interchangeable.firstOther_eq hitems]
    split
    · exact .ok (.objects hitems)
    · exact .error _
  | noList _ hu =>
    cases u with
    | list us => cases hu
    | _ => exact .error _

end Checker

namespace Member

variable {v v' : Version} {h : Held} {m : Member Checker} {found found' : Option Json}

theorem settle_alike_of_checker (path : Path) (hp : ∀ d, m.presence ≠ .default d)
    (hc : ∀ {u u'}, h.Interchange v v' u u' → ∀ path,
      Alike (h.Interchange v v') (m.checker.coerceAt path u) (m.checker.coerceAt path u'))
    (hfound : Option.Rel (h.Interchange v v') found found') :
    Alike (Option.Rel (h.Interchange v v')) (m.settle path found) (m.settle path found') := by
  obtain ⟨name, c, p⟩ := m
  cases hfound with
  | none =>
    cases p with
    | required => exact .error _
    | optional => exact .ok .none
    | default d => exact absurd rfl (hp d)
  | some hu =>
    rename_i u u'
    have hsome : Alike (Option.Rel (h.Interchange v v'))
        ((c.coerceAt (path ++ [.member name]) u).map some)
        ((c.coerceAt (path ++ [.member name]) u').map some) :=
      (hc hu _).map fun _ _ hw => .some hw
    cases p with
    | required => exact hsome
    | optional => exact hsome
    | default d => exact absurd rfl (hp d)

/-- A member that suits what it holds settles alike for values that may stand for each other. -/
theorem settle_alike (path : Path) (hsuits : h.suits m = true)
    (hfound : Option.Rel (h.Interchange v v') found found') :
    Alike (Option.Rel (h.Interchange v v')) (m.settle path found) (m.settle path found') := by
  -- One case for each line of `suits`.
  unfold Held.suits at hsuits
  split at hsuits
  · rw [Held.Interchange.eq_of_plain hfound]
    exact .refl (optionRel_same .plain) _
  · exact settle_alike_of_checker path (fun _ => nofun)
      (fun (.object hu) path => Checker.coerceAt_object_alike path hu) hfound
  · exact settle_alike_of_checker path (fun _ => nofun)
      (fun (.object hu) path => Checker.coerceAt_object_alike path hu) hfound
  · exact settle_alike_of_checker path (fun _ => nofun)
      (fun (.object hu) path => Checker.coerceAt_nullable_object_alike path hu) hfound
  · exact settle_alike_of_checker path (fun _ => nofun)
      (fun (.object hu) path => Checker.coerceAt_nullable_object_alike path hu) hfound
  · exact settle_alike_of_checker path (fun _ => nofun)
      (fun hu path => Checker.coerceAt_objects_alike path hu) hfound
  · cases hsuits

end Member

/-! ## Records -/

/-- What the records hold may stand for each other, under every name. -/
def Record.Interchange (k : Kind) (v v' : Version) (record record' : Record) : Prop :=
  ∀ name, Alike (Option.Rel ((k.held name).Interchange v v')) (record.find name)
    (record'.find name)

/-- The members of a kind settle alike in two objects. -/
def Kind.SettlesAlike (k : Kind) (v v' : Version) (entries entries' : List (String × Json)) :
    Prop :=
  ∀ m ∈ k.schema, Alike (Option.Rel ((k.held m.name).Interchange v v'))
    (m.settle [] (findEntry m.name entries)) (m.settle [] (findEntry m.name entries'))

/-- **Checks** of objects whose members settle alike find the same fault, or give records that may
stand for each other. -/
theorem Kind.check_alike {k : Kind} {v v' : Version} {entries entries' : List (String × Json)}
    (h : k.SettlesAlike v v' entries entries') :
    Alike (Record.Interchange k v v') (k.schema.check (.object entries))
      (k.schema.check (.object entries')) := by
  have halike : Alike (fun values values' => ∀ name,
      Option.Rel ((k.held name).Interchange v v') (values.get? name) (values'.get? name))
      (Checker.checkMembers k.schema [] entries .empty)
      (Checker.checkMembers k.schema [] entries' .empty) :=
    Checker.checkMembers_alike (R := fun name => (k.held name).Interchange v v') h fun _ => .none
  refine halike.map fun values values' hvalues name => ?_
  by_cases hname : name ∈ k.schema.map Member.name
  · simp only [Record.find, if_pos hname]
    exact .ok (hvalues name)
  · simp only [Record.find, if_neg hname]
    exact .error _

namespace Record

variable {v v' : Version} {h : Held} {record record' : Record} {field : String}

theorem value_alike
    (hfind : Alike (Option.Rel (h.Interchange v v')) (record.find field) (record'.find field)) :
    Alike (h.Interchange v v') (record.value field) (record'.value field) := by
  refine hfind.bind fun found found' hfound => ?_
  cases hfound with
  | none => exact .error _
  | some hu => exact .ok hu

theorem optValue_alike
    (hfind : Alike (Option.Rel (h.Interchange v v')) (record.find field) (record'.find field)) :
    Alike (Option.Rel (h.Interchange v v')) (record.optValue field) (record'.optValue field) := by
  refine hfind.bind fun found found' hfound => .ok ?_
  cases hfound with
  | none => exact .none
  | some hu =>
    rw [Option.filter_some, Option.filter_some, hu.isNull_eq]
    split
    · exact .some hu
    · exact .none

end Record

/-! ## Readers -/

namespace Kind

variable {kind : Kind} {v v' : Version}

theorem readItems_alike {us us' : List Json}
    (h : List.Forall₂ (kind.Interchangeable v v') us us') (name : String) (index : Nat) :
    Reader.readItems name (kind.reader.read v') index us' =
      Reader.readItems name (kind.reader.read v) index us := by
  induction h generalizing index with
  | nil => rfl
  | cons hu _ ih => rw [Reader.readItems, Reader.readItems, hu.read_eq, ih]

/-- **Lists** whose items are interchangeable are read alike. -/
theorem readList_alike (hv : v.Akin v') {u u' : Json}
    (h : Held.Interchange v v' (.objects kind) u u') :
    kind.reader.readList v' u' = kind.reader.readList v u := by
  cases h with
  | objects hitems =>
    rename_i us us'
    have hother := Interchangeable.firstOther_eq hitems 0
    cases hus : Json.firstOther 0 us with
    | some p =>
      rw [hus] at hother
      rw [Reader.readList, Reader.readList, Json.expectObjects_list, Json.expectObjects_list,
        hother, hus]
      rfl
    | none =>
      rw [hus] at hother
      have hobjects := Json.firstOther_eq_none.mp hus
      have hobjects' := Json.firstOther_eq_none.mp hother
      by_cases hsupported : Version.v2_0 ≤ v
      · rw [readList_objects (hv.supported hsupported) hobjects',
          readList_objects hsupported hobjects, readItems_alike hitems]
      · obtain rfl := hv.eq_of_unsupported hsupported
        rw [readList_before _ hsupported, readList_before _ hsupported,
          Json.expectObjects_ok hobjects, Json.expectObjects_ok hobjects']
        rfl
  | noList _ hu =>
    cases u with
    | list us => cases hu
    | _ => rfl

variable {record record' : Record} {field : String}

theorem readField_alike
    (h : Alike (Option.Rel (Held.Interchange v v' (.object kind))) (record.find field)
      (record'.find field)) :
    kind.reader.readField v' record' field = kind.reader.readField v record field := by
  refine ((Record.value_alike h).mapError _).bind_eq fun u u' hu => ?_
  cases hu with
  | object hu => rw [hu.read_eq]

theorem readOptionalField_alike
    (h : Alike (Option.Rel (Held.Interchange v v' (.object kind))) (record.find field)
      (record'.find field)) :
    kind.reader.readOptionalField v' record' field =
      kind.reader.readOptionalField v record field := by
  refine ((Record.optValue_alike h).mapError _).bind_eq fun found found' hfound => ?_
  cases hfound with
  | none => rfl
  | some hu =>
    cases hu with
    | object hu => simp only [hu.read_eq]

theorem readListField_alike (hv : v.Akin v')
    (h : Alike (Option.Rel (Held.Interchange v v' (.objects kind))) (record.find field)
      (record'.find field)) :
    kind.reader.readListField v' record' field = kind.reader.readListField v record field := by
  refine ((Record.optValue_alike h).mapError _).bind_eq fun found found' hfound => ?_
  cases hfound with
  | none => rfl
  | some hu => simp only [readList_alike hv hu]

end Kind

/-! ## Layouts -/

namespace Layout.Clears

variable {k : Kind} {name : String} {v v' : Version} {record record' : Record}

/-- A layout does not tell records apart that may stand for each other. -/
theorem read_alike {α : Type} {hs rest : List Hurdle} {x : Layout α} (hx : Clears hs x rest)
    (hv : v.Akin v') (hrecord : record.Interchange k v v' record')
    (hsuits : ∀ m ∈ x.schema, (k.held m.name).suits m = true)
    (hslots : ∀ s, .slot s ∈ hs → s ∈ k.slots) :
    x.read ⟨name, v'⟩ record' = x.read ⟨name, v⟩ record := by
  have hplain {m : Member Checker} (hm : (k.held m.name).suits m = true)
      (hembeds : m.checker.embeds = false) : record'.find m.name = record.find m.name := by
    have hfind := hrecord m.name
    rw [Held.eq_plain hm hembeds] at hfind
    generalize record.find m.name = x, record'.find m.name = x' at hfind
    rcases hfind with e | hrel
    · rfl
    · rw [Held.Interchange.eq_of_plain hrel]
  have hfind {s : Slot} (hs : s ∈ k.slots) {field : String} (hfield : field ∈ s.fields) :
      Alike (Option.Rel (s.held.Interchange v v')) (record.find field) (record'.find field) := by
    rw [← k.held_slot s hs field hfield]
    exact hrecord field
  induction hx with
  | map g hx ih => rw [read_map, read_map, ih hsuits hslots]
  | seq hf hx ihf ihx =>
    rw [read_seq, read_seq, ihf (fun m hm => hsuits m (List.mem_append_left _ hm)) hslots,
      ihx (fun m hm => hsuits m (List.mem_append_right _ hm))
        fun s hs => hslots s (hf.subset _ hs)]
  | member name h =>
    rw [read_member, read_member, h.get_congr (hplain (hsuits _ List.mem_cons_self) h.plain)]
  | word w h =>
    rename_i f
    have htext : (Layout.text w.field).read ⟨name, v'⟩ record' =
        (Layout.text w.field).read ⟨name, v⟩ record := by
      rw [Layout.text, read_member, read_member,
        Member.ReadBy.text.get_congr (hplain (hsuits _ List.mem_cons_self) rfl)]
    show ((Layout.text w.field).read ⟨name, v'⟩ record').bind _ = _
    rw [htext]
    rfl
  | one field kind =>
    exact Kind.readField_alike (hfind (hslots _ List.mem_cons_self) List.mem_cons_self)
  | nullable field kind | optional field kind | omissible field kind =>
    exact Kind.readOptionalField_alike (hfind (hslots _ List.mem_cons_self) List.mem_cons_self)
  | many field kind =>
    exact Kind.readListField_alike hv (hfind (hslots _ List.mem_cons_self) List.mem_cons_self)
  | pair first second label plural kind =>
    have hs := hslots _ List.mem_cons_self
    have hfirst := Record.value_alike (hfind hs List.mem_cons_self)
    have hsecond := Record.value_alike (hfind hs (List.mem_cons_of_mem _ List.mem_cons_self))
    refine (hfirst.mapError Error.schema).bind_eq fun a a' ha => ?_
    refine (hsecond.mapError Error.schema).bind_eq fun b b' hb => ?_
    cases ha with
    | object ha =>
      cases hb with
      | object hb => rw [Kind.readList_alike hv (.objects (.cons ha (.cons hb .nil)))]

end Layout.Clears

/-! ## Whole objects -/

namespace Kind

variable {k : Kind} {v v' : Version}

/-- **Objects whose members settle alike are interchangeable.** -/
theorem interchangeable_object (hv : v.Akin v') {entries entries' : List (String × Json)}
    (h : k.SettlesAlike v v' entries entries') :
    k.Interchangeable v v' (.object entries) (.object entries') := by
  refine ⟨.inr ⟨rfl, rfl⟩, ?_⟩
  by_cases hsupported : Version.v2_0 ≤ v
  · rw [read_object k hsupported rfl, read_object k (hv.supported hsupported) rfl,
      Layout.readMembers, Layout.readMembers, checkFields, checkFields]
    refine ((check_alike h).mapError _).bind_eq fun record record' hrecord => ?_
    exact k.layout_clears.read_alike hv hrecord k.held_suits fun _ hs => slot_mem_hurdles.mp hs
  · obtain rfl := hv.eq_of_unsupported hsupported
    rw [read_before k hsupported, read_before k hsupported]
    rfl

/-- Values that may stand for each other under every declared name make interchangeable objects. -/
theorem interchangeable_of_members (hv : v.Akin v') {entries entries' : List (String × Json)}
    (h : ∀ m ∈ k.schema, Option.Rel ((k.held m.name).Interchange v v') (findEntry m.name entries)
      (findEntry m.name entries')) : k.Interchangeable v v' (.object entries) (.object entries') :=
  interchangeable_object hv fun m hm => Member.settle_alike [] (k.held_suits m hm) (h m hm)

end Kind

end RegionClient
