import RegionClient.Proofs.Kinds
import RegionClient.Proofs.Readers

set_option autoImplicit false

/-! # The stages of reading

Reading an object of some kind goes through three stages: the version, the check that the object
itself can answer for (`Kind.ownCheck`: its declared members, then its words), and its slots, one
after the other (`Slot.pass`). `Kind.read_stages` says that there is no other stage, and
`Reader.readItems_error` where the reading of a list stops.
-/

namespace RegionClient

/-! ## What an object answers for itself -/

/-- Looks at a word, if its member holds a text. -/
def Word.inspect (w : Word) (source : Json) : Except ReadFault Unit :=
  match source.get? w.field with
  | some (.string s) => (w.check s).mapError (.inside w.field)
  | _ => .ok ()

namespace Kind

/-- What a document of a kind answers for itself: its declared members, and then its words. -/
def ownCheck (k : Kind) (source : Json) : Except ReadFault Unit := do
  let _ ← (k.schema.check source).mapError .schema
  k.words.forM (·.inspect source)

/-- The document has nothing wrong with it, apart from what it embeds. -/
def Accepts (k : Kind) (source : Json) : Prop :=
  k.ownCheck source = .ok ()

/-- The error of a document that has something wrong with itself. -/
def ownError (k : Kind) (fault : ReadFault) : Error :=
  .deserialization (.inside (k.typeName ++ " 2.0 schema check failed") fault)

end Kind

/-! ## What it embeds -/

/-- The value under a key of an object, unless it is null. -/
def Json.given? (key : String) (value : Json) : Option Json :=
  (value.get? key).filter fun u => !u.isNull

theorem Json.get?_of_given? {key : String} {value u : Json} (h : value.given? key = some u) :
    value.get? key = some u :=
  (Option.filter_eq_some_iff.mp h).1

theorem Json.given?_object {key : String} {value u : Json} (h : value.get? key = some u)
    (hobject : u.isObject = true) : value.given? key = some u := by
  obtain ⟨entries, rfl⟩ := isObject_iff.mp hobject
  rw [given?, h]
  rfl

/-- Reads what is in a slot, and drops it. -/
def Slot.pass (v : Version) (source : Json) : Slot → Except Error Unit
  | one field kind =>
    match source.given? field with
    | none => .ok ()
    | some u => (verdict (kind.reader.read v u)).mapError (Error.annotate field)
  | many field kind =>
    match source.given? field with
    | none => .ok ()
    | some u => (verdict (kind.reader.readList v u)).mapError (Error.annotate field)
  | batch label fields kind =>
    (verdict (kind.reader.readList v (.list (fields.filterMap (source.get? ·))))).mapError
      (Error.annotate label)

/-- The record holds what the document has for a slot, and that has the shape that the reader of the
slot wants. -/
def Slot.Shaped (record : Record) (source : Json) (s : Slot) : Prop :=
  (∀ field ∈ s.fields, record.find field = .ok (source.get? field)) ∧
    match s with
    | one field _ => ∀ u, source.given? field = some u → u.isObject = true
    | many field _ => ∃ items, source.get? field = some (.list items) ∧
        ∀ u ∈ items, u.isObject = true
    | batch _ fields _ => ∀ field ∈ fields, ∃ u, source.get? field = some u ∧ u.isObject = true

/-- Passes a hurdle of a document, or fails at it. -/
def Hurdle.pass (scope : Scope) (source : Json) : Hurdle → Except Error Unit
  | word w => (w.inspect source).mapError fun fault => .deserialization (.inside scope.stage fault)
  | slot s => s.pass scope.version source

namespace Slot

variable {record : Record} {source : Json} {field : String} {kind : Kind} {v : Version}

theorem Shaped.one (hfind : record.find field = .ok (source.get? field))
    (hshape : ∀ u, source.get? field = some u → (u.isNull || u.isObject) = true) :
    (one field kind).Shaped record source :=
  ⟨List.forall_mem_singleton.mpr hfind, fun _ hu => Json.isObject_of_filter hshape hu⟩

theorem Shaped.many {items : List Json} (hfind : record.find field = .ok (source.get? field))
    (hitems : source.get? field = some (.list items)) (hobjects : ∀ u ∈ items, u.isObject = true) :
    (many field kind).Shaped record source :=
  ⟨List.forall_mem_singleton.mpr hfind, items, hitems, hobjects⟩

theorem Shaped.batch {label : String} {fields : List String}
    (h : ∀ field ∈ fields, ∃ u, u.isObject = true ∧ source.get? field = some u ∧
      record.find field = .ok (some u)) : (batch label fields kind).Shaped record source := by
  refine ⟨fun field hfield => ?_, fun field hfield => ?_⟩
  · obtain ⟨u, -, hu, hfind⟩ := h field hfield
    rw [hu, hfind]
  · obtain ⟨u, hobject, hu, -⟩ := h field hfield
    exact ⟨u, hu, hobject⟩

theorem Shaped.batch_present {label : String} {fields : List String}
    (h : (Slot.batch label fields kind).Shaped record source) :
    ∀ field ∈ fields, ∃ u, source.get? field = some u := fun field hfield => by
  obtain ⟨u, hu, -⟩ := h.2 field hfield
  exact ⟨u, hu⟩

theorem Shaped.batch_objects {label : String} {fields : List String}
    (h : (Slot.batch label fields kind).Shaped record source) :
    ∀ u ∈ fields.filterMap (source.get? ·), u.isObject = true := fun u hu => by
  obtain ⟨field, hfield, hget⟩ := List.mem_filterMap.mp hu
  obtain ⟨u', hu', hobject⟩ := h.2 field hfield
  obtain rfl : u' = u := Option.some.inj (hu'.symm.trans hget)
  exact hobject

theorem pass_required {u : Json} (hfind : record.find field = .ok (some u))
    (hgiven : source.given? field = some u) :
    verdict (kind.reader.readField v record field) = (one field kind).pass v source := by
  rw [Reader.readField_eq hfind, verdict_mapError, pass, hgiven]

theorem pass_optional (hfind : record.find field = .ok (source.get? field)) :
    verdict (kind.reader.readOptionalField v record field) = (one field kind).pass v source := by
  rw [Reader.readOptionalField_eq hfind, pass, Json.given?]
  cases (source.get? field).filter fun u => !u.isNull with
  | none => rfl
  | some u => rw [verdict_map, verdict_mapError]

theorem pass_many (hfind : record.find field = .ok (source.get? field)) :
    verdict (kind.reader.readListField v record field) = (many field kind).pass v source := by
  rw [Reader.readListField_eq hfind, pass, Json.given?]
  cases (source.get? field).filter fun u => !u.isNull with
  | none => rfl
  | some u => rw [verdict_mapError]

end Slot

namespace Layout.Clears

variable {record : Record} {source : Json}

/-- Once its members are checked, a layout fails where it meets a hurdle that the document does not
pass, and nowhere else. -/
theorem pass {α : Type} {hs rest : List Hurdle} {x : Layout α} (hx : Clears hs x rest)
    (scope : Scope) (hholds : record.Holds x.schema source) :
    hs.forM (·.pass scope source) =
      (verdict (x.read scope record)).bind fun _ => rest.forM (·.pass scope source) := by
  -- The rest of the hurdles stands on both sides, so that two layouts in sequence chain.
  induction hx with
  | map g hx ih => rw [read_map, verdict_map, ih hholds]
  | seq hf hx ihf ihx =>
    rename_i f x
    obtain ⟨hfs, hxs⟩ : record.Holds f.schema source ∧ record.Holds x.schema source :=
      hholds.append
    rw [ihf hfs, ihx hxs, read_seq]
    cases f.read scope record with
    | error e => rfl
    | ok g => cases x.read scope record <;> rfl
  | member name h =>
    obtain ⟨w, hw, hfind⟩ := hholds _ List.mem_cons_self
    obtain ⟨a, ha⟩ := h.get_ok hw hfind
    rw [read_member, ha]
    rfl
  | word w h =>
    rename_i f
    obtain ⟨s, hu, hfind⟩ := hholds.requiredText List.mem_cons_self
    have hinspect : w.inspect source = (verdict (f s)).mapError (.inside w.field) := by
      rw [h s, Word.inspect, hu]
    rw [forM_cons, Hurdle.pass, hinspect, read_word hfind, verdict_mapError]
    cases f s <;> rfl
  | one field kind =>
    obtain ⟨u, hobject, hu, hfind⟩ := hholds.requiredObject List.mem_cons_self
    rw [forM_cons, Hurdle.pass, ← Slot.pass_required hfind (Json.given?_object hu hobject)]
    rfl
  | nullable field kind | optional field kind | omissible field kind =>
    obtain ⟨hfind, -⟩ := hholds.objectOrNull List.mem_cons_self (by simp) (fun _ => nofun)
    rw [forM_cons, Hurdle.pass, ← Slot.pass_optional hfind]
    rfl
  | many field kind =>
    obtain ⟨items, -, hitems, hfind⟩ := hholds.requiredObjects List.mem_cons_self
    rw [forM_cons, Hurdle.pass, ← Slot.pass_many (hfind.trans (congrArg _ hitems.symm))]
    rfl
  | pair first second label plural kind =>
    obtain ⟨a, -, ha, hfinda⟩ := hholds.requiredObject List.mem_cons_self
    obtain ⟨b, -, hb, hfindb⟩ :=
      hholds.requiredObject (List.mem_cons_of_mem _ List.mem_cons_self)
    have hbatch : [first, second].filterMap (source.get? ·) = [a, b] := by simp [ha, hb]
    rw [forM_cons, Hurdle.pass, Slot.pass, hbatch, read_pair hfinda hfindb]

/-- Once its members are checked, what a layout reads a slot from has the shape that its reader
wants. -/
theorem shaped {α : Type} {hs rest : List Hurdle} {x : Layout α} (hx : Clears hs x rest)
    (hholds : record.Holds x.schema source) {s : Slot} (hs : .slot s ∈ hs) :
    .slot s ∈ rest ∨ s.Shaped record source := by
  have head {t : Slot} {ts : List Hurdle} (ht : t.Shaped record source)
      (h : .slot s ∈ Hurdle.slot t :: ts) : .slot s ∈ ts ∨ s.Shaped record source := by
    rcases List.mem_cons.mp h with heq | h
    · cases heq
      exact .inr ht
    · exact .inl h
  induction hx with
  | map g hx ih => exact ih hholds hs
  | seq hf hx ihf ihx =>
    rename_i f x
    obtain ⟨hfs, hxs⟩ : record.Holds f.schema source ∧ record.Holds x.schema source :=
      hholds.append
    rcases ihf hfs hs with hmid | hshaped
    · exact ihx hxs hmid
    · exact .inr hshaped
  | member name h => exact .inl hs
  | word w h =>
    rcases List.mem_cons.mp hs with heq | hs
    · cases heq
    · exact .inl hs
  | one field kind | nullable field kind | optional field kind | omissible field kind =>
    obtain ⟨hfind, hshape⟩ := hholds.objectOrNull List.mem_cons_self (by simp) (fun _ => nofun)
    exact head (.one hfind hshape) hs
  | many field kind =>
    obtain ⟨items, hobjects, hitems, hfind⟩ := hholds.requiredObjects List.mem_cons_self
    exact head (.many (hfind.trans (congrArg _ hitems.symm)) hitems hobjects) hs
  | pair first second label plural kind =>
    have hboth : ∀ field ∈ [first, second], ∃ u, u.isObject = true ∧
        source.get? field = some u ∧ record.find field = .ok (some u) :=
      List.forall_mem_cons.mpr ⟨hholds.requiredObject List.mem_cons_self,
        List.forall_mem_singleton.mpr
          (hholds.requiredObject (List.mem_cons_of_mem _ List.mem_cons_self))⟩
    exact head (.batch hboth) hs

/-- Once its members are checked, every getter of a layout gives a value. -/
theorem legible {α : Type} {hs rest : List Hurdle} {x : Layout α} (hx : Clears hs x rest)
    (hholds : record.Holds x.schema source) : ∀ m ∈ x.schema, m.Legible record := by
  induction hx with
  | map g hx ih => exact ih hholds
  | seq hf hx ihf ihx =>
    rename_i f x
    obtain ⟨hfs, hxs⟩ : record.Holds f.schema source ∧ record.Holds x.schema source :=
      hholds.append
    exact List.forall_mem_append.mpr ⟨ihf hfs, ihx hxs⟩
  | member name h =>
    obtain ⟨w, hw, hfind⟩ := hholds _ List.mem_cons_self
    exact List.forall_mem_singleton.mpr ((h.legible_iff _ _).mpr (h.get_ok hw hfind))
  | word w h =>
    obtain ⟨w, hw, hfind⟩ := hholds _ List.mem_cons_self
    exact List.forall_mem_singleton.mpr (Member.ReadBy.text.get_ok hw hfind)
  | one field kind =>
    exact List.forall_mem_singleton.mpr (hholds.object_legible List.mem_cons_self)
  | nullable field kind | optional field kind | omissible field kind =>
    exact List.forall_mem_singleton.mpr
      (hholds.objectOrNull_legible List.mem_cons_self (by simp) (fun _ => nofun))
  | many field kind =>
    exact List.forall_mem_singleton.mpr (hholds.objects_legible List.mem_cons_self)
  | pair first second label plural kind =>
    exact List.forall_mem_cons.mpr ⟨hholds.object_legible List.mem_cons_self,
      List.forall_mem_singleton.mpr
        (hholds.object_legible (List.mem_cons_of_mem _ List.mem_cons_self))⟩

end Layout.Clears

namespace Kind

variable (k : Kind) {v : Version} {source : Json}

theorem select_reader (hv : Version.v2_0 ≤ v) :
    k.reader.select v = .ok fun w => k.layout.readMembers k.typeName w := by
  rw [reader_eq]
  exact k.layout.select_reader k.typeName hv

theorem select_reader_before (hv : ¬ Version.v2_0 ≤ v) :
    k.reader.select v = .error (.unsupportedVersion k.typeName v) := by
  rw [reader_eq]
  exact k.layout.select_reader_before k.typeName hv

theorem read_object (hv : Version.v2_0 ≤ v) (hobject : source.isObject = true) :
    k.reader.read v source = k.layout.readMembers k.typeName v source := by
  rw [Reader.read_object k.reader hobject, select_reader k hv]
  rfl

/-- **The stages of reading** an object: what it answers for itself, and then its slots. -/
theorem read_stages (hv : Version.v2_0 ≤ v) (hobject : source.isObject = true) :
    verdict (k.reader.read v source) =
      ((k.ownCheck source).mapError k.ownError).bind fun _ => k.slots.forM (·.pass v source) := by
  rw [read_object k hv hobject, Layout.readMembers, ownCheck, checkFields]
  cases hcheck : k.layout.schema.check source with
  | error fault =>
    have hown : k.schema.check source = .error fault := hcheck
    rw [hown]
    rfl
  | ok record =>
    have hown : k.schema.check source = .ok record := hcheck
    rw [hown]
    have hpass := Layout.Clears.pass k.layout_clears ⟨k.typeName, v⟩
      (Schema.check_holds k.names_nodup hcheck)
    rw [hurdles, forM_append, forM_map, forM_map] at hpass
    have hwords := forM_mapError k.ownError (Word.inspect · source) k.words
    calc verdict (k.layout.read ⟨k.typeName, v⟩ record)
        = (verdict (k.layout.read ⟨k.typeName, v⟩ record)).bind fun _ => .ok () := by
          cases k.layout.read ⟨k.typeName, v⟩ record <;> rfl
      _ = _ := hpass.symm
      _ = _ := congrArg (Except.bind · fun _ => k.slots.forM (·.pass v source)) hwords.symm

variable {k} {record : Record}

theorem Accepts.checked (h : k.Accepts source) : ∃ record, k.schema.check source = .ok record := by
  rw [Accepts, ownCheck] at h
  cases hcheck : k.schema.check source with
  | ok record => exact ⟨record, rfl⟩
  | error fault =>
    rw [hcheck] at h
    cases h

theorem slots_shaped (hcheck : k.schema.check source = .ok record) {s : Slot} (hs : s ∈ k.slots) :
    s.Shaped record source := by
  have hholds := Schema.check_holds k.names_nodup hcheck
  rcases k.layout_clears.shaped hholds (slot_mem_hurdles.mpr hs) with hnil | h
  · cases hnil
  · exact h

theorem members_legible (hcheck : k.schema.check source = .ok record) :
    ∀ m ∈ k.schema, m.Legible record :=
  k.layout_clears.legible (Schema.check_holds k.names_nodup hcheck)

theorem readList_objects (hv : Version.v2_0 ≤ v) {items : List Json}
    (hobjects : ∀ u ∈ items, u.isObject = true) :
    k.reader.readList v (.list items) = Reader.readItems k.typeName (k.reader.read v) 0 items :=
  k.reader.readList_objects hobjects (k.select_reader hv)

end Kind

end RegionClient
