import RegionClient.Proofs.Stages

set_option autoImplicit false

/-! # Culprits

When reading fails, one object is to blame for it: something is wrong with itself, whatever it
embeds. `Leads` says which routes lead from a document to an embedded object, past objects that have
nothing wrong with themselves and items that could be read. The error is that of the culprit, inside
the notes of a route to it, and nothing else can be wrong once the outer shape is right.
-/

namespace RegionClient

/-! ## Notes -/

/-- An error inside the notes of a route, the outermost first. -/
def Error.within (notes : List String) (e : Error) : Error :=
  notes.foldr Error.annotate e

/-- A text after the notes of a route. -/
def routed (notes : List String) (text : String) : String :=
  notes.foldr (fun note rest => note ++ ": " ++ rest) text

/-- The error says what is wrong with an object of a kind itself, after the notes of a route. -/
structure Kind.Reports (k : Kind) (notes : List String) (own : ReadFault) (e : Error) : Prop where
  error : e = (k.ownError own).within notes
  message : ∃ fault, e = .deserialization fault ∧
    fault.message = routed notes (k.typeName ++ " 2.0 schema check failed: " ++ own.message)

/-- The note of an item in a list of resources of a kind. -/
def Kind.position (k : Kind) (index : Nat) : String :=
  k.typeName ++ " " ++ Numeral.ofNat index

theorem Kind.Reports.own (k : Kind) (fault : ReadFault) :
    k.Reports [] fault (k.ownError fault) := by
  refine ⟨rfl, _, rfl, ?_⟩
  have hstage : k.typeName ++ " 2.0 schema check failed" ++ ": " =
      k.typeName ++ " 2.0 schema check failed: " := String.append_assoc
  exact congrArg (· ++ fault.message) hstage

theorem Kind.Reports.annotate {k : Kind} {notes : List String} {own : ReadFault} {e : Error}
    (h : k.Reports notes own e) (note : String) :
    k.Reports (note :: notes) own (e.annotate note) := by
  obtain ⟨herror, fault, rfl, hmessage⟩ := h
  refine ⟨congrArg (Error.annotate note) herror, .inside note fault, rfl, ?_⟩
  show note ++ ": " ++ fault.message = _
  rw [hmessage]
  rfl

/-! ## Routes -/

/-- Routes from an object of one kind to an embedded one of another, with their notes. Each object
above the last has nothing wrong with itself, and the items before the one taken can be read. -/
inductive Leads (v : Version) : Kind → Json → List String → Kind → Json → Prop where
  | here (k : Kind) (u : Json) : Leads v k u [] k u
  | field {k kind k' : Kind} {source u u' : Json} {name : String} {notes : List String}
      (hslot : .one name kind ∈ k.slots) (haccepts : k.Accepts source)
      (hu : source.get? name = some u) (next : Leads v kind u notes k' u') :
      Leads v k source (name :: notes) k' u'
  | item {k kind k' : Kind} {source u u' : Json} {name : String} {notes : List String}
      {before after : List Json} (hslot : .many name kind ∈ k.slots) (haccepts : k.Accepts source)
      (hitems : source.get? name = some (.list (before ++ u :: after)))
      (hbefore : ∀ w ∈ before, ∃ r, kind.reader.read v w = .ok r)
      (next : Leads v kind u notes k' u') :
      Leads v k source (name :: kind.position before.length :: notes) k' u'
  | batch {k kind k' : Kind} {source u u' : Json} {label name : String} {notes : List String}
      {before after : List String} (hslot : .batch label (before ++ name :: after) kind ∈ k.slots)
      (haccepts : k.Accepts source)
      (hbefore : ∀ earlier ∈ before, ∃ w, source.get? earlier = some w ∧
        ∃ r, kind.reader.read v w = .ok r)
      (hu : source.get? name = some u) (next : Leads v kind u notes k' u') :
      Leads v k source (label :: kind.position before.length :: notes) k' u'

/-- An object that is read alone with the same fault as the error reports: one of its own. -/
def Culprit (v : Version) (k : Kind) (u : Json) (notes : List String) (e : Error) : Prop :=
  ∃ fault, k.ownCheck u = .error fault ∧ k.reader.read v u = .error (k.ownError fault) ∧
    k.Reports notes fault e

theorem Culprit.annotate {v : Version} {k : Kind} {u : Json} {notes : List String} {e : Error}
    (h : Culprit v k u notes e) (note : String) :
    Culprit v k u (note :: notes) (e.annotate note) := by
  obtain ⟨fault, hown, halone, hreports⟩ := h
  exact ⟨fault, hown, halone, hreports.annotate note⟩

/-- Where something is found for every item, the places among what is found are those among the
items. -/
theorem filterMap_split {α β : Type} {f : α → Option β} {l : List α}
    (hall : ∀ a ∈ l, ∃ b, f a = some b) {before after : List β} {b : β}
    (h : l.filterMap f = before ++ b :: after) :
    ∃ l₁ a l₂, l = l₁ ++ a :: l₂ ∧ l₁.length = before.length ∧ f a = some b ∧
      ∀ c ∈ l₁, ∃ d ∈ before, f c = some d := by
  induction l generalizing before with
  | nil => cases before <;> cases h
  | cons a rest ih =>
    obtain ⟨⟨d, hd⟩, hrest⟩ := List.forall_mem_cons.mp hall
    rw [List.filterMap_cons_some hd] at h
    cases before with
    | nil =>
      obtain ⟨rfl, -⟩ := List.cons.inj h
      exact ⟨[], a, rest, rfl, rfl, hd, List.forall_mem_nil _⟩
    | cons first before =>
      obtain ⟨rfl, htail⟩ := List.cons.inj h
      obtain ⟨l₁, c, l₂, rfl, hlength, hc, hl₁⟩ := ih hrest htail
      refine ⟨a :: l₁, c, l₂, rfl, congrArg Nat.succ hlength, hc, ?_⟩
      refine List.forall_mem_cons.mpr ⟨⟨d, List.mem_cons_self, hd⟩, fun x hx => ?_⟩
      obtain ⟨y, hy, hxy⟩ := hl₁ x hx
      exact ⟨y, List.mem_cons_of_mem _ hy, hxy⟩

/-- The failure to read an object is that of one at the end of a route from it. -/
def Kind.Blames (k : Kind) (v : Version) (source : Json) (e : Error) : Prop :=
  ∃ notes k' u, Leads v k source notes k' u ∧ Culprit v k' u notes e

section

variable {k kind : Kind} {v : Version} {record : Record} {source : Json} {e : Error}
variable (hread : ∀ {u e}, u.isObject = true → kind.reader.read v u = .error e → kind.Blames v u e)

include hread

theorem Kind.readList_blames (hv : Version.v2_0 ≤ v) {items : List Json}
    (hobjects : ∀ u ∈ items, u.isObject = true)
    (h : kind.reader.readList v (.list items) = .error e) :
    ∃ before u after notes k' u', items = before ++ u :: after ∧
      (∀ w ∈ before, ∃ r, kind.reader.read v w = .ok r) ∧ Leads v kind u notes k' u' ∧
        Culprit v k' u' (kind.position before.length :: notes) e := by
  rw [readList_objects hv hobjects] at h
  obtain ⟨before, u, after, e', rfl, hbefore, hu, rfl⟩ := Reader.readItems_error h
  obtain ⟨notes, k', u', hleads, hculprit⟩ :=
    hread (hobjects u (List.mem_append_right _ List.mem_cons_self)) hu
  rw [Nat.zero_add]
  exact ⟨before, u, after, notes, k', u', rfl, hbefore, hleads, hculprit.annotate _⟩

theorem Slot.one_blames {name : String} (hmem : .one name kind ∈ k.slots)
    (haccepts : k.Accepts source) (hshape : (one name kind).Shaped record source)
    (h : (one name kind).pass v source = .error e) : k.Blames v source e := by
  rw [pass] at h
  cases hu : source.given? name with
  | none =>
    rw [hu] at h
    cases h
  | some u =>
    rw [hu] at h
    obtain ⟨e', he', rfl⟩ := mapError_error h
    obtain ⟨notes, k', u', hleads, hculprit⟩ := hread (hshape.2 u hu) (verdict_error.mp he')
    exact ⟨name :: notes, k', u', .field hmem haccepts (Json.get?_of_given? hu) hleads,
      hculprit.annotate name⟩

theorem Slot.many_blames (hv : Version.v2_0 ≤ v) {name : String} (hmem : .many name kind ∈ k.slots)
    (haccepts : k.Accepts source) (hshape : (many name kind).Shaped record source)
    (h : (many name kind).pass v source = .error e) : k.Blames v source e := by
  obtain ⟨items, hitems, hobjects⟩ := hshape.2
  rw [pass, Json.given?, hitems] at h
  obtain ⟨e', he', rfl⟩ := mapError_error h
  obtain ⟨before, w, after, notes, k', u', rfl, hbefore, hleads, hculprit⟩ :=
    Kind.readList_blames hread hv hobjects (verdict_error.mp he')
  exact ⟨name :: kind.position before.length :: notes, k', u',
    .item hmem haccepts hitems hbefore hleads, hculprit.annotate name⟩

theorem Slot.batch_blames (hv : Version.v2_0 ≤ v) {label : String} {fields : List String}
    (hmem : .batch label fields kind ∈ k.slots) (haccepts : k.Accepts source)
    (hshape : (batch label fields kind).Shaped record source)
    (h : (batch label fields kind).pass v source = .error e) : k.Blames v source e := by
  obtain ⟨e', he', rfl⟩ := mapError_error h
  obtain ⟨before, w, after, notes, k', u', hitems, hbefore, hleads, hculprit⟩ :=
    Kind.readList_blames hread hv hshape.batch_objects (verdict_error.mp he')
  obtain ⟨earlier, name, later, rfl, hlength, hw, hearlier⟩ :=
    filterMap_split hshape.batch_present hitems
  rw [← hlength] at hculprit
  refine ⟨label :: kind.position earlier.length :: notes, k', u',
    .batch hmem haccepts (fun field hfield => ?_) hw hleads, hculprit.annotate label⟩
  obtain ⟨u, hu, hget⟩ := hearlier field hfield
  exact ⟨u, hget, hbefore u hu⟩

end

/-- **Culprits**: a failure to read an object is that of an object at the end of a route. -/
theorem Kind.read_blames {v : Version} (hv : Version.v2_0 ≤ v) (k : Kind) {source : Json}
    {e : Error} (hobject : source.isObject = true) (herror : k.reader.read v source = .error e) :
    k.Blames v source e := by
  -- The induction is on the kind: what a slot embeds is of a kind lower in the graph, whatever the
  -- document holds.
  induction k using slots_induction generalizing source e with
  | h k ih =>
    have hstages := k.read_stages hv hobject
    rw [verdict_error.mpr herror] at hstages
    cases hown : k.ownCheck source with
    | error fault =>
      rw [hown] at hstages
      obtain rfl : e = k.ownError fault := Except.error.inj hstages
      exact ⟨[], k, source, .here k source, fault, hown, herror, .own k fault⟩
    | ok =>
      rw [hown] at hstages
      obtain ⟨record, hcheck⟩ := Accepts.checked hown
      -- The first slot that cannot be passed: earlier ones need no mention on the route.
      obtain ⟨before, s, after, hslots, -, hs⟩ := forM_error hstages.symm
      have hmem : s ∈ k.slots := hslots ▸ List.mem_append_right _ List.mem_cons_self
      have hshape := slots_shaped hcheck hmem
      cases s with
      | one name kind => exact Slot.one_blames (ih _ hmem) hmem hown hshape hs
      | many name kind => exact Slot.many_blames (ih _ hmem) hv hmem hown hshape hs
      | batch label fields kind => exact Slot.batch_blames (ih _ hmem) hv hmem hown hshape hs

/-- **Failures are routed to a culprit.** A document with the right outer shape that cannot be read
holds an object that cannot be read alone, for a fault of its own, and the error is the one that
this object has alone, after the notes of a route to it. For a list the route begins at an item, and
the items before it can be read. -/
theorem Kind.fails_at_culprit (k : Kind) {v : Version} (hv : Version.v2_0 ≤ v) :
    (∀ source entries e, source.expectObject = .ok entries →
      k.reader.read v source = .error e →
        ∃ notes k' u, Leads v k source notes k' u ∧ Culprit v k' u notes e) ∧
    (∀ source items e, source.expectObjects = .ok items →
      k.reader.readList v source = .error e →
        ∃ before u after notes k' u', items = before ++ u :: after ∧
          (∀ w ∈ before, ∃ r, k.reader.read v w = .ok r) ∧ Leads v k u notes k' u' ∧
            Culprit v k' u' (k.position before.length :: notes) e) := by
  refine ⟨fun source entries e hshape herror => ?_, fun source items e hshape herror => ?_⟩
  · exact k.read_blames hv (Json.isObject_of_expectObject hshape) herror
  · obtain ⟨rfl, hobjects⟩ := Json.list_of_expectObjects hshape
    exact readList_blames (k.read_blames hv) hv hobjects herror

/-- The document of a virtual network with a greatest frame size. -/
def networkDocument (mtu : Json) : Json :=
  .object [("dhcp_on", .bool true), ("fabric", .string "fabric-0"), ("id", .integer 1),
    ("mtu", mtu), ("resource_uri", .string "/vlans/1/"), ("vid", .integer 0)]

/-- The document of a fabric with two networks, of which the second has no frame size. -/
def fabricDocument : Json :=
  .object [("id", .integer 0), ("name", .string "fabric-0"),
    ("resource_uri", .string "/fabrics/0/"),
    ("vlans", .list [networkDocument (.integer 1500), networkDocument .null])]

/-- The error of a frame size that is null. -/
def frameSizeError : Error :=
  Kind.vlan.ownError (.schema ⟨[.member "mtu"], .mismatch "int" .null⟩)

theorem Kind.fails_at_culprit_vlan :
    Version.v2_0 ≤ Version.v2_0 ∧
    (∃ notes k' u, Leads .v2_0 .fabric fabricDocument notes k' u ∧
      Culprit .v2_0 k' u notes (frameSizeError.within ["vlans", "vlan 1"])) ∧
    ∃ before u after notes k' u', [fabricDocument] = before ++ u :: after ∧
      (∀ w ∈ before, ∃ r, Kind.fabric.reader.read .v2_0 w = .ok r) ∧
      Leads .v2_0 .fabric u notes k' u' ∧
        Culprit .v2_0 k' u' (Kind.fabric.position before.length :: notes)
          (frameSizeError.within ["fabric 0", "vlans", "vlan 1"]) :=
  ⟨by decide, (fails_at_culprit .fabric (by decide)).1 fabricDocument _ _ rfl rfl,
    (fails_at_culprit .fabric (by decide)).2 (.list [fabricDocument]) _ _ rfl rfl⟩

/-! ## Which failures there are -/

/-- The notes that may lead from a kind to one that it holds, directly or through others. -/
inductive Kind.Reaches : Kind → List String → Kind → Prop where
  | here (k : Kind) : Reaches k [] k
  | field {k kind k' : Kind} {name : String} {notes : List String}
      (hslot : .one name kind ∈ k.slots) (next : Reaches kind notes k') :
      Reaches k (name :: notes) k'
  | item {k kind k' : Kind} {name : String} {notes : List String}
      (hslot : .many name kind ∈ k.slots) (index : Nat) (next : Reaches kind notes k') :
      Reaches k (name :: kind.position index :: notes) k'
  | batch {k kind k' : Kind} {label : String} {fields notes : List String}
      (hslot : .batch label fields kind ∈ k.slots) {index : Nat} (hindex : index < fields.length)
      (next : Reaches kind notes k') : Reaches k (label :: kind.position index :: notes) k'

theorem Leads.reaches {v : Version} {k k' : Kind} {source u : Json} {notes : List String}
    (h : Leads v k source notes k' u) : k.Reaches notes k' := by
  induction h with
  | here k u => exact .here k
  | field hslot _ _ _ ih => exact .field hslot ih
  | item hslot _ _ _ _ ih => exact .item hslot _ ih
  | batch hslot _ _ _ _ ih => exact .batch hslot (by simp) ih

/-- **Nothing else fails.** Reading fails for the outer shape of the document, or for the members
and words of an object that the kind is or holds, and says which after the notes that lead there.
Once the members of an object are checked, every getter gives a value of the shape that is wanted,
the readers of what it holds know the version, and a batch gives as many values as it has
documents. -/
theorem Kind.fails_at_checks (k : Kind) {v : Version} (hv : Version.v2_0 ≤ v) :
    (∀ source e, k.reader.read v source = .error e →
      (∃ fault, source.expectObject = .error fault ∧ e = k.reader.outerError fault) ∨
        ∃ notes k' own, k.Reaches notes k' ∧ k'.Reports notes own e) ∧
    (∀ source e, k.reader.readList v source = .error e →
      (∃ fault, source.expectObjects = .error fault ∧ e = k.reader.outerError fault) ∨
        ∃ index notes k' own, k.Reaches notes k' ∧
          k'.Reports (k.position index :: notes) own e) ∧
    (∀ source record, k.schema.check source = .ok record →
      (∀ m ∈ k.schema, m.Legible record) ∧
      (∀ s ∈ k.slots, ∃ entry, s.kind.reader.select v = .ok entry) ∧
      ∀ label fields kind, .batch label fields kind ∈ k.slots →
        ∀ us rs, fields.mapM record.value = .ok us →
          kind.reader.readList v (.list us) = .ok rs → rs.length = fields.length) := by
  refine ⟨fun source e herror => ?_, fun source e herror => ?_, fun source record hcheck => ?_⟩
  · cases hshape : source.expectObject with
    | error fault =>
      rw [Reader.read, hshape] at herror
      exact .inl ⟨fault, rfl, (Except.error.inj herror).symm⟩
    | ok entries =>
      obtain ⟨notes, k', u, hleads, own, -, -, hreports⟩ :=
        k.read_blames hv (Json.isObject_of_expectObject hshape) herror
      exact .inr ⟨notes, k', own, hleads.reaches, hreports⟩
  · cases hshape : source.expectObjects with
    | error fault =>
      rw [Reader.readList, hshape] at herror
      exact .inl ⟨fault, rfl, (Except.error.inj herror).symm⟩
    | ok items =>
      obtain ⟨rfl, hobjects⟩ := Json.list_of_expectObjects hshape
      obtain ⟨before, u, after, notes, k', u', -, -, hleads, own, -, -, hreports⟩ :=
        readList_blames (k.read_blames hv) hv hobjects herror
      exact .inr ⟨before.length, notes, k', own, hleads.reaches, hreports⟩
  · refine ⟨members_legible hcheck, fun s _ => ⟨_, s.kind.select_reader hv⟩, ?_⟩
    intro label fields kind _ us rs hus hrs
    rw [Reader.readList_length hrs, mapM_length hus]

theorem Kind.fails_at_checks_vlan :
    Version.v2_0 ≤ Version.v2_0 ∧
    ((∃ fault, fabricDocument.expectObject = .error fault ∧
        frameSizeError.within ["vlans", "vlan 1"] = Kind.fabric.reader.outerError fault) ∨
      ∃ notes k' own, Kind.fabric.Reaches notes k' ∧
        k'.Reports notes own (frameSizeError.within ["vlans", "vlan 1"])) ∧
    ((∃ fault, (Json.list [fabricDocument]).expectObjects = .error fault ∧
        frameSizeError.within ["fabric 0", "vlans", "vlan 1"] =
          Kind.fabric.reader.outerError fault) ∨
      ∃ index notes k' own, Kind.fabric.Reaches notes k' ∧
        k'.Reports (Kind.fabric.position index :: notes) own
          (frameSizeError.within ["fabric 0", "vlans", "vlan 1"])) ∧
    ∃ record, Kind.fabric.schema.check fabricDocument = .ok record ∧
      ∀ m ∈ Kind.fabric.schema, m.Legible record :=
  ⟨by decide, (fails_at_checks .fabric (v := .v2_0) (by decide)).1 fabricDocument _ rfl,
    (fails_at_checks .fabric (v := .v2_0) (by decide)).2.1 (.list [fabricDocument]) _ rfl,
    _, rfl, ((fails_at_checks .fabric (v := .v2_0) (by decide)).2.2 fabricDocument _ rfl).1⟩

end RegionClient
