import RegionClient.Proofs.Interchange
import RegionClient.Proofs.Parts

set_option autoImplicit false

/-! # Null for what is absent

A member that may be missing may also be null, and reads as if it were missing: so the getters and
the readers of such members have it, whatever the checker of the member says. For three of the four
members that may be missing the checker takes null, and then `Kind.null_as_absent` says that no
outcome changes, at whatever depth the null is. The checker for the subnet of a link wants an
object: a document with a link to null cannot be read at all.
-/

namespace RegionClient

/-! ## Members that may be missing -/

/-- The member may be missing. -/
def Member.isOptional (m : Member Checker) : Bool :=
  match m.presence with
  | .optional => true
  | _ => false

/-- The member may be missing, and its checker takes null. -/
def Member.takesNull : Member Checker → Bool
  | ⟨_, .oneOf (.null :: _), .optional⟩ => true
  | _ => false

namespace Member

variable {m : Member Checker} {path : Path}

theorem settle_absent (h : m.isOptional = true) : m.settle path none = .ok none := by
  obtain ⟨name, c, presence⟩ := m
  cases presence with
  | optional => rfl
  | _ => cases h

theorem settle_null (h : m.takesNull = true) : m.settle path (some .null) = .ok (some .null) := by
  unfold takesNull at h
  split at h
  · simp [settle, Checker.coerceAt, Checker.coerceFirst, Except.map]
  · cases h

theorem isOptional_of_takesNull (h : m.takesNull = true) : m.isOptional = true := by
  unfold takesNull at h
  split at h
  · rfl
  · cases h

end Member

namespace Kind

/-- The members of a kind that may be missing. -/
def optionalFields : Kind → List String
  | machine => ["boot_interface"]
  | partition => ["filesystem"]
  | link => ["subnet"]
  | storedFile => ["content"]
  | _ => []

theorem isOptional_eq (k : Kind) :
    ∀ m ∈ k.schema, m.isOptional = decide (m.name ∈ k.optionalFields) := by
  cases k <;> decide

/-- Only the subnet of a link may be missing and not be null. -/
theorem takesNull_of_optional {k : Kind} (hk : k ≠ .link) :
    ∀ m ∈ k.schema, m.isOptional = true → m.takesNull = true := by
  cases k <;> first | exact absurd rfl hk | decide

theorem exists_member {k : Kind} {field : String} (h : field ∈ k.optionalFields) :
    ∃ m ∈ k.schema, m.name = field ∧ m.isOptional = true := by
  have hall : ∀ field ∈ k.optionalFields, field ∈ k.schema.map Member.name := by
    cases k <;> decide
  obtain ⟨m, hm, rfl⟩ := List.mem_map.mp (hall field h)
  exact ⟨m, hm, rfl, (k.isOptional_eq m hm).trans (decide_eq_true h)⟩

end Kind

/-! ## Records -/

/-- One record has null where the other has nothing, and they do not differ otherwise. -/
structure Record.NullAt (field : String) (record record' : Record) : Prop where
  absent : record.find field = .ok none
  null : record'.find field = .ok (some .null)
  other : ∀ name, name ≠ field → record'.find name = record.find name

namespace Reader

variable {α : Type} {r : Reader α} {v : Version} {record record' : Record} {field : String}

theorem readField_congr (h : record'.find field = record.find field) :
    r.readField v record' field = r.readField v record field := by
  simp only [readField, Record.value, Record.require, h]

theorem readOptionalField_congr (h : record'.find field = record.find field) :
    r.readOptionalField v record' field = r.readOptionalField v record field := by
  simp only [readOptionalField, Record.optValue, h]

theorem readListField_congr (h : record'.find field = record.find field) :
    r.readListField v record' field = r.readListField v record field := by
  simp only [readListField, Record.optValue, h]

/-- Null is read as nothing is. -/
theorem readOptionalField_null (h : record.NullAt field record') :
    r.readOptionalField v record' field = r.readOptionalField v record field := by
  rw [readOptionalField_eq h.null, readOptionalField_eq h.absent]
  rfl

end Reader

namespace Layout.Clears

variable {record record' : Record} {field : String} {scope : Scope}

/-- **A layout does not tell null from nothing** in a member that may be missing. -/
theorem read_null {α : Type} {hs rest : List Hurdle} {x : Layout α} (hx : Clears hs x rest)
    (h : record.NullAt field record')
    (hfield : ∀ m ∈ x.schema, m.name = field → m.isOptional = true) :
    x.read scope record' = x.read scope record := by
  -- A member that must be there is not the one in question.
  have hother {name : String} {c : Checker} {ms : Schema}
      (hms : ∀ m ∈ ms, m.name = field → m.isOptional = true) (hm : ⟨name, c, .required⟩ ∈ ms) :
      record'.find name = record.find name := by
    refine h.other name fun hname => ?_
    have hoptional : Member.isOptional ⟨name, c, .required⟩ = true := hms _ hm hname
    cases hoptional
  induction hx with
  | map g hx ih => rw [read_map, read_map, ih hfield]
  | seq hf hx ihf ihx =>
    rw [read_seq, read_seq, ihf fun m hm => hfield m (List.mem_append_left _ hm),
      ihx fun m hm => hfield m (List.mem_append_right _ hm)]
  | @member _ _ name _ presence _ hget =>
    rw [read_member, read_member]
    by_cases hname : name = field
    · subst hname
      have hoptional := hfield _ List.mem_cons_self rfl
      have hpresence : presence = .optional := by
        cases presence with
        | optional => rfl
        | _ => cases hoptional
      rw [hget.get_null hpresence h.absent h.null]
    · rw [hget.get_congr (h.other name hname)]
  | @word _ _ w f _ =>
    have htext : (Layout.text w.field).read scope record' =
        (Layout.text w.field).read scope record := by
      rw [Layout.text, read_member, read_member,
        Member.ReadBy.text.get_congr (hother hfield List.mem_cons_self)]
    show ((Layout.text w.field).read scope record').bind _ = _
    rw [htext]
    rfl
  | one name kind => exact Reader.readField_congr (hother hfield List.mem_cons_self)
  | nullable name kind => exact Reader.readOptionalField_congr (hother hfield List.mem_cons_self)
  | optional name kind | omissible name kind =>
    by_cases hname : name = field
    · subst hname
      exact Reader.readOptionalField_null h
    · exact Reader.readOptionalField_congr (h.other name hname)
  | many name kind => exact Reader.readListField_congr (hother hfield List.mem_cons_self)
  | pair first second label plural kind =>
    have hfirst := hother hfield List.mem_cons_self
    have hsecond := hother hfield (List.mem_cons_of_mem _ List.mem_cons_self)
    simp only [Layout.pair, Record.value, Record.require, hfirst, hsecond]

end Layout.Clears

/-! ## Objects -/

namespace Checker

variable {members : List (Member Checker)} {path : Path} {entries entries' : List (String × Json)}

/-- If all members settle or fail alike, so do the checks of all of them. -/
theorem verdict_checkMembers
    (h : ∀ m ∈ members, verdict (m.settle path (findEntry m.name entries')) =
      verdict (m.settle path (findEntry m.name entries))) (checked checked' : SortedMap Json) :
    verdict (checkMembers members path entries' checked') =
      verdict (checkMembers members path entries checked) := by
  induction members generalizing checked checked' with
  | nil => rfl
  | cons first rest ih =>
    obtain ⟨hfirst, hrest⟩ := List.forall_mem_cons.mp h
    rw [checkMembers_cons, checkMembers_cons]
    generalize first.settle path (findEntry first.name entries) = x at hfirst ⊢
    generalize first.settle path (findEntry first.name entries') = x' at hfirst ⊢
    cases x with
    | error fault =>
      rw [verdict_error.mp hfirst]
      rfl
    | ok w =>
      obtain ⟨w', rfl⟩ := verdict_ok.mp hfirst
      exact ih hrest _ _

/-- A check fails at a member that does not settle, unless it fails before it. -/
theorem checkMembers_fails_at {m : Member Checker} {fault : SchemaFault}
    (h : m.settle path (findEntry m.name entries) = .error fault)
    (before after : List (Member Checker)) (checked : SortedMap Json) :
    ∃ fault', checkMembers (before ++ m :: after) path entries checked = .error fault' ∧
      ((∀ b ∈ before, ∃ w, b.settle path (findEntry b.name entries) = .ok w) → fault' = fault) := by
  induction before generalizing checked with
  | nil =>
    refine ⟨fault, ?_, fun _ => rfl⟩
    rw [List.nil_append, checkMembers_cons, h]
    rfl
  | cons first rest ih =>
    rw [List.cons_append, checkMembers_cons]
    cases hfirst : first.settle path (findEntry first.name entries) with
    | error fault' =>
      refine ⟨fault', rfl, fun hall => ?_⟩
      obtain ⟨w, hw⟩ := hall first List.mem_cons_self
      cases hfirst.symm.trans hw
    | ok w =>
      obtain ⟨fault', hfault, heq⟩ := ih (checked.insertSome first.name w)
      exact ⟨fault', hfault, fun hall => heq fun b hb => hall b (List.mem_cons_of_mem _ hb)⟩

end Checker

/-- One object has null under a name for which the other has nothing, and they do not differ
otherwise. -/
structure NullEntry (field : String) (entries entries' : List (String × Json)) : Prop where
  absent : findEntry field entries = none
  null : findEntry field entries' = some .null
  other : ∀ name, name ≠ field → findEntry name entries' = findEntry name entries

namespace NullEntry

variable {k : Kind} {m : Member Checker} {entries entries' : List (String × Json)}

/-- The checks of both objects fail alike, or give records that differ as the objects do. -/
theorem check (h : NullEntry m.name entries entries') (hm : m ∈ k.schema)
    (hnull : m.takesNull = true) :
    Alike (Record.NullAt m.name) (k.schema.check (.object entries))
      (k.schema.check (.object entries')) := by
  have habsent : m.settle [] (findEntry m.name entries) = .ok none := by
    rw [h.absent, Member.settle_absent (Member.isOptional_of_takesNull hnull)]
  have hpresent : m.settle [] (findEntry m.name entries') = .ok (some .null) := by
    rw [h.null, Member.settle_null hnull]
  cases hcheck : k.schema.check (.object entries) with
  | error fault =>
    have hverdict : verdict (k.schema.check (.object entries')) =
        verdict (k.schema.check (.object entries)) := by
      show verdict ((Checker.checkMembers ..).map _) = verdict ((Checker.checkMembers ..).map _)
      rw [verdict_map, verdict_map]
      refine Checker.verdict_checkMembers (fun m' hm' => ?_) _ _
      by_cases hname : m'.name = m.name
      · obtain rfl : m' = m := List.inj_on_of_nodup_map k.names_nodup hm' hm hname
        rw [habsent, hpresent]
        rfl
      · rw [h.other _ hname]
    rw [hcheck] at hverdict
    rw [verdict_error.mp hverdict]
    exact .error fault
  | ok record =>
    obtain ⟨record', hcheck', hfind', hother⟩ :=
      Schema.check_replaced k.names_nodup hm hcheck h.other hpresent
    obtain ⟨w, hw, hfind⟩ := Schema.check_holds k.names_nodup hcheck m hm
    obtain rfl := Except.ok.inj (habsent.symm.trans hw)
    rw [hcheck']
    exact .ok ⟨hfind, hfind', hother⟩

/-- **Objects are interchangeable** if one has null for a member that the other does not have and
that takes null. -/
theorem interchangeable (h : NullEntry m.name entries entries') (hm : m ∈ k.schema)
    (hnull : m.takesNull = true) (v : Version) :
    k.Interchangeable v v (.object entries) (.object entries') := by
  refine ⟨.inr ⟨rfl, rfl⟩, ?_⟩
  by_cases hsupported : Version.v2_0 ≤ v
  · rw [Kind.read_object k hsupported rfl, Kind.read_object k hsupported rfl, Layout.readMembers,
      Layout.readMembers, checkFields, checkFields]
    refine ((h.check hm hnull).mapError _).bind_eq fun record record' hrecord => ?_
    refine k.layout_clears.read_null hrecord fun m' hm' hname => ?_
    obtain rfl : m' = m := List.inj_on_of_nodup_map k.names_nodup hm' hm hname
    exact Member.isOptional_of_takesNull hnull
  · rw [k.read_before hsupported, k.read_before hsupported]
    rfl

end NullEntry

/-! ## Whole documents -/

/-- In one place null is written for an absent member of a kind, in the document itself or in an
object that it embeds. -/
inductive Nulled (kind : Kind) (field : String) : Held → Json → Json → Prop where
  | member {entries entries' : List (String × Json)} (h : NullEntry field entries entries') :
      Nulled kind field (.object kind) (.object entries) (.object entries')
  /-- Somewhere in what a member embeds. -/
  | inside {k : Kind} {name : String} {entries entries' : List (String × Json)} {u u' : Json}
      (hu : findEntry name entries = some u) (hu' : findEntry name entries' = some u')
      (h : Nulled kind field (k.held name) u u')
      (hother : ∀ other, other ≠ name → findEntry other entries' = findEntry other entries) :
      Nulled kind field (.object k) (.object entries) (.object entries')
  /-- Somewhere in an item of a list. -/
  | item {k : Kind} (before after : List Json) {u u' : Json}
      (h : Nulled kind field (.object k) u u') :
      Nulled kind field (.objects k) (.list (before ++ u :: after)) (.list (before ++ u' :: after))

namespace Nulled

variable {kind : Kind} {held : Held} {u u' : Json} {v : Version}

/-- **One null** where null is taken: the documents may stand for each other. -/
theorem interchange {m : Member Checker} (h : Nulled kind m.name held u u') (hm : m ∈ kind.schema)
    (hnull : m.takesNull = true) (v : Version) : held.Interchange v v u u' := by
  induction h with
  | member h => exact .object (h.interchangeable hm hnull v)
  | @inside k name entries entries' u u' hu hu' _ hother ih =>
    refine .object (Kind.interchangeable_of_members (.refl v) fun m' hm' => ?_)
    by_cases hname : m'.name = name
    · subst hname
      rw [hu, hu']
      exact .some ih
    · rw [hother _ hname]
      exact optionRel_same (.refl _ v) _
  | @item k before after u u' _ ih =>
    cases ih with
    | object hu =>
      have hsame (us : List Json) : List.Forall₂ (k.Interchangeable v v) us us :=
        List.forall₂_same.mpr fun w _ => .refl k v w
      exact .objects (List.rel_append (hsame before) (.cons hu (hsame after)))

end Nulled

/-! ## Links -/

/-- What is held can be read. -/
def Held.Readable (v : Version) : Held → Json → Prop
  | .plain, _ => True
  | .object kind, u => ∃ r, kind.reader.read v u = .ok r
  | .objects kind, u => ∃ rs, kind.reader.readList v u = .ok rs

namespace Kind

variable {k : Kind} {v : Version} {entries : List (String × Json)}

/-- Of an object that can be read all that it embeds can be read. -/
theorem held_readable (hv : Version.v2_0 ≤ v) (h : ∃ r, k.reader.read v (.object entries) = .ok r)
    {name : String} {u : Json} (hu : findEntry name entries = some u) (hnull : u.isNull = false) :
    (k.held name).Readable v u := by
  rw [← verdict_ok, k.read_stages hv rfl] at h
  cases hown : k.ownCheck (.object entries) with
  | error fault =>
    rw [hown] at h
    cases h
  | ok =>
    rw [hown] at h
    obtain ⟨record, hcheck⟩ := Accepts.checked hown
    have hgiven : (Json.object entries).given? name = some u :=
      Option.filter_eq_some_iff.mpr ⟨hu, by rw [hnull]; rfl⟩
    unfold held
    cases hfind : k.slots.find? fun s => name ∈ s.fields with
    | none => trivial
    | some s =>
      have hs : s ∈ k.slots := List.mem_of_find?_eq_some hfind
      have hname : name ∈ s.fields := by simpa using List.find?_some hfind
      have hreads := ((slots_shaped hcheck hs).pass_iff hv).mp (forM_ok.mp h s hs)
      cases s with
      | one field kind =>
        obtain rfl := List.mem_singleton.mp hname
        exact hreads u hgiven
      | many field kind =>
        obtain rfl := List.mem_singleton.mp hname
        exact hreads u hgiven
      | batch label fields kind => exact hreads name hname u hu

/-- Of a list that can be read each item can be read. -/
theorem readable_of_mem (hv : Version.v2_0 ≤ v) {us : List Json}
    (h : ∃ rs, k.reader.readList v (.list us) = .ok rs) {u : Json} (hu : u ∈ us) :
    ∃ r, k.reader.read v u = .ok r := by
  obtain ⟨rs, hrs⟩ := h
  obtain ⟨sources, hshape, -⟩ := bind_ok.mp hrs
  obtain ⟨hlist, hobjects⟩ := Json.list_of_expectObjects (mapError_ok.mp hshape)
  obtain rfl := Json.list.inj hlist
  rw [readList_objects hv hobjects] at hrs
  exact mapM_ok_iff.mp ⟨rs, Reader.readItems_ok.mp hrs⟩ u hu

/-- The fault of a link to null. -/
def nullSubnet : SchemaFault :=
  ⟨[.member "subnet"], .mismatch "map" .null⟩

/-- **A link to null is refused**, and for that if it could be read without it. -/
theorem read_nullSubnet (hv : Version.v2_0 ≤ v) {entries' : List (String × Json)}
    (h : NullEntry "subnet" entries entries') :
    ∃ fault, link.reader.read v (.object entries') = .error (link.ownError (.schema fault)) ∧
      ((∃ r, link.reader.read v (.object entries) = .ok r) → fault = nullSubnet) := by
  have hsettle : Member.settle ⟨"subnet", .object, .optional⟩ [] (findEntry "subnet" entries') =
      .error nullSubnet := by
    rw [h.null]
    rfl
  obtain ⟨fault, hfault, heq⟩ := Checker.checkMembers_fails_at hsettle
    [⟨"id", .forcedInt, .required⟩, ⟨"mode", .string, .required⟩]
    [⟨"ip_address", .nullable .string, .default (.string "")⟩] .empty
  have hcheck : link.layout.schema.check (.object entries') = .error fault := by
    show (Checker.checkMembers _ [] entries' .empty).map _ = _
    exact hfault ▸ rfl
  refine ⟨fault, ?_, fun ⟨r, hr⟩ => heq fun m hm => ?_⟩
  · rw [read_object link hv rfl, Layout.readMembers, checkFields, hcheck]
    rfl
  · rw [read_object link hv rfl, Layout.readMembers, checkFields] at hr
    cases hplain : link.layout.schema.check (.object entries) with
    | error e =>
      rw [hplain] at hr
      cases hr
    | ok record =>
      -- The members before the subnet are the same in both objects.
      have hmem : m ∈ link.layout.schema := List.mem_append_left [_, _] hm
      have hname : m.name ≠ "subnet" := by
        simp only [List.mem_cons, List.not_mem_nil, or_false] at hm
        rcases hm with rfl | rfl <;> decide
      obtain ⟨w, hw, -⟩ := Schema.check_holds link.names_nodup hplain m hmem
      rw [h.other _ hname]
      exact ⟨w, hw⟩

end Kind

namespace Nulled

variable {held : Held} {u u' : Json} {v : Version}

theorem isNull_eq {kind : Kind} {field : String} (h : Nulled kind field held u u') :
    u'.isNull = false := by
  cases h <;> rfl

/-- A document that embeds a link to null cannot be read. -/
theorem not_readable (h : Nulled .link "subnet" held u u') (hv : Version.v2_0 ≤ v) :
    ¬ held.Readable v u' := by
  induction h with
  | member h =>
    rintro ⟨r, hr⟩
    obtain ⟨fault, hfault, -⟩ := Kind.read_nullSubnet hv h
    cases hfault.symm.trans hr
  | @inside k name entries entries' u u' _ hu' h _ ih =>
    exact fun hread => ih (Kind.held_readable hv hread hu' h.isNull_eq)
  | @item k before after u u' _ ih =>
    exact fun hread => ih (Kind.readable_of_mem hv hread (List.mem_append_right _ List.mem_cons_self))

end Nulled

namespace Kind

/-- **Null for what is absent** changes no outcome, wherever a document has it, except for the
subnet of a link. Nothing that has a link to null can be read, and the link itself is refused for
the null if it could be read without it. -/
theorem null_as_absent {kind : Kind} {field : String} (hfield : field ∈ kind.optionalFields)
    (v : Version) :
    (kind ≠ .link →
      (∀ k u u', Nulled kind field (.object k) u u' →
        k.reader.read v u' = k.reader.read v u) ∧
      (∀ k u u', Nulled kind field (.objects k) u u' →
        k.reader.readList v u' = k.reader.readList v u)) ∧
    (kind = .link → Version.v2_0 ≤ v →
      (∀ k u u', Nulled kind field (.object k) u u' → ∀ r, k.reader.read v u' ≠ .ok r) ∧
      (∀ k u u', Nulled kind field (.objects k) u u' → ∀ rs, k.reader.readList v u' ≠ .ok rs) ∧
      (∀ entries entries', NullEntry field entries entries' →
        (∃ r, link.reader.read v (.object entries) = .ok r) →
        link.reader.read v (.object entries') = .error (link.ownError (.schema nullSubnet)))) := by
  obtain ⟨m, hm, rfl, hoptional⟩ := exists_member hfield
  refine ⟨fun hkind => ?_, ?_⟩
  · have hnull := takesNull_of_optional hkind m hm hoptional
    refine ⟨fun k u u' h => ?_, fun k u u' h => readList_alike (.refl v) (h.interchange hm hnull v)⟩
    cases h.interchange hm hnull v with
    | object hu => exact hu.read_eq
  · rintro rfl hv
    rw [List.mem_singleton.mp hfield]
    refine ⟨fun k u u' h r hr => h.not_readable hv ⟨r, hr⟩,
      fun k u u' h rs hrs => h.not_readable hv ⟨rs, hrs⟩, fun entries entries' h hread => ?_⟩
    obtain ⟨fault, hfault, heq⟩ := read_nullSubnet hv h
    rw [hfault, heq hread]

/-- The members of a partition without a file system. -/
def bareEntries : List (String × Json) :=
  [("id", .integer 1), ("path", .string "/dev/sda1"), ("resource_uri", .string "/partitions/1/"),
    ("size", .integer 1024), ("used_for", .string "")]

/-- In a list of partitions one may have null for its file system. -/
theorem null_as_absent_filesystem :
    "filesystem" ∈ partition.optionalFields ∧
    ∃ rs, partition.reader.readList .v2_0 (.list [partitionDocument, .object bareEntries]) =
        .ok rs ∧
      partition.reader.readList .v2_0
        (.list [partitionDocument, .object (("filesystem", .null) :: bareEntries)]) = .ok rs := by
  have hentry : NullEntry "filesystem" bareEntries (("filesystem", .null) :: bareEntries) :=
    ⟨rfl, rfl, fun name hname => if_neg hname.symm⟩
  obtain ⟨rs, hrs⟩ : ∃ rs, partition.reader.readList .v2_0
      (.list [partitionDocument, .object bareEntries]) = .ok rs := ⟨_, rfl⟩
  refine ⟨by decide, rs, hrs, ?_⟩
  rw [← hrs]
  exact ((null_as_absent (by decide) .v2_0).1 (by decide)).2 partition _ _
    (.item [partitionDocument] [] (.member hentry))

/-- The document of a link that is not configured, with more members. -/
def linkDocument (more : List (String × Json)) : Json :=
  .object ([("id", .integer 1), ("mode", .string "link_up")] ++ more)

/-- **A link to null is not read as a link to nothing.** -/
theorem null_as_absent_subnet :
    (∃ r, link.reader.read .v2_0 (linkDocument []) = .ok r ∧ r.subnet = none) ∧
    link.reader.read .v2_0 (linkDocument [("subnet", .null)]) =
      .error (link.ownError (.schema nullSubnet)) ∧
    (link.ownError (.schema nullSubnet)).message =
      "Deserialization error: link 2.0 schema check failed: subnet: expected map, got null" :=
  ⟨⟨_, rfl, rfl⟩, rfl, by decide⟩

end Kind

end RegionClient
