import RegionClient.Proofs.Stages

set_option autoImplicit false

/-! # Parts of resources

A resource that holds others holds what reading them alone gives. `Kind.parts` lists what a resource
holds and from which member, and `Part.ReadAlone` says that this is what the reader of the part
makes of the member, item by item for a list.

`Layout.Gives` follows the values through a layout: what holds of the value of each building block
may be used of the value that is made of them.
-/

namespace RegionClient

/-! ## Parts -/

/-- What a resource holds from a member of its document. -/
inductive Part where
  /-- One resource, or none if the member is missing or null. -/
  | one (field : String) (kind : Kind) (value : Option kind.Value)
  /-- The resources of a list. -/
  | many (field : String) (kind : Kind) (values : List kind.Value)

namespace Part

/-- Where a part comes from: a member, and the kind of what is in it. -/
def place : Part → String × Kind
  | one field kind _ | many field kind _ => (field, kind)

/-- The part is what reading it alone gives: the list as a whole, and each of its items. -/
def ReadAlone (v : Version) (source : Json) : Part → Prop
  | one field _ none => source.given? field = none
  | one field kind (some value) =>
    ∃ u, source.get? field = some u ∧ kind.reader.read v u = .ok value
  | many field kind values =>
    ∃ items, source.get? field = some (.list items) ∧
      kind.reader.readList v (.list items) = .ok values ∧
        items.mapM (kind.reader.read v) = .ok values

/-- All of some parts are what reading them alone gives. -/
def AllReadAlone (v : Version) (source : Json) (parts : List Part) : Prop :=
  ∀ p ∈ parts, p.ReadAlone v source

theorem AllReadAlone.nil {v : Version} {source : Json} : AllReadAlone v source [] :=
  List.forall_mem_nil _

theorem AllReadAlone.cons {v : Version} {source : Json} {p : Part} {ps : List Part}
    (hp : p.ReadAlone v source) (hps : AllReadAlone v source ps) :
    AllReadAlone v source (p :: ps) :=
  List.forall_mem_cons.mpr ⟨hp, hps⟩

end Part

namespace Kind

/-- What a resource of a kind holds. -/
def parts : (k : Kind) → k.Value → List Part
  | subnet, (r : Subnet) => [.one "vlan" vlan (some r.vlan)]
  | fabric, (r : Fabric) => [.many "vlans" vlan r.vlans]
  | space, (r : Space) => [.many "subnets" subnet r.subnets]
  | staticRoute, (r : StaticRoute) =>
    [.one "source" subnet (some r.source), .one "destination" subnet (some r.destination)]
  | link, (r : Link) => [.one "subnet" subnet r.subnet]
  | interface, (r : Interface) => [.one "vlan" vlan r.vlan, .many "links" link r.links]
  | partition, (r : Partition) => [.one "filesystem" filesystem r.filesystem]
  | blockDevice, (r : BlockDevice) => [.many "partitions" partition r.partitions]
  | machine, (r : Machine) =>
    [.one "boot_interface" interface r.bootInterface, .many "interface_set" interface r.interfaces,
      .one "zone" zone (some r.zone),
      .many "physicalblockdevice_set" blockDevice r.physicalBlockDevices,
      .many "blockdevice_set" blockDevice r.blockDevices]
  | device, (r : Device) =>
    [.many "interface_set" interface r.interfaces, .one "zone" zone (some r.zone)]
  | _, _ => []

/-- A resource has a part for every member that a slot of its kind is read from. -/
theorem parts_places (k : Kind) (r : k.Value) :
    (k.parts r).map Part.place =
      k.slots.flatMap fun s => s.fields.map fun field => (field, s.kind) := by
  cases k <;> rfl

end Kind

/-! ## Values through layouts -/

namespace Layout

variable {α β : Type} {scope : Scope} {record : Record}

/-- Whatever a layout gives has a property. -/
def Gives (x : Layout α) (scope : Scope) (record : Record) (P : α → Prop) : Prop :=
  ∀ a, x.read scope record = .ok a → P a

namespace Gives

variable {P : β → Prop} {Q : α → Prop}

theorem map {g : α → β} {x : Layout α} (h : ∀ a, P (g a)) : (g <$> x).Gives scope record P := by
  intro b hb
  obtain ⟨a, -, rfl⟩ := Checker.map_ok hb
  exact h a

theorem seq {f : Layout (α → β)} {x : Layout α}
    (hf : f.Gives scope record fun g => ∀ a, Q a → P (g a)) (hx : x.Gives scope record Q) :
    (f <*> x).Gives scope record P := by
  intro b hb
  rw [read_seq] at hb
  cases hg : f.read scope record with
  | error e =>
    rw [hg] at hb
    cases hb
  | ok g =>
    rw [hg] at hb
    obtain ⟨a, ha, rfl⟩ := Checker.map_ok hb
    exact hf g hg a (hx a ha)

/-- A value of which nothing is to be known. -/
theorem skip {f : Layout (α → β)} {x : Layout α}
    (hf : f.Gives scope record fun g => ∀ a, P (g a)) : (f <*> x).Gives scope record P :=
  seq (Q := fun _ => True) (fun g hg a _ => hf g hg a) fun _ _ => trivial

end Gives

end Layout

/-! ## Slots -/

namespace Slot

variable {record : Record} {source : Json} {field : String} {kind : Kind}

theorem Shaped.one_alone (h : (Slot.one field kind).Shaped record source) (scope : Scope) :
    (Layout.one kind.reader field).Gives scope record fun a =>
      (Part.one field kind (some a)).ReadAlone scope.version source := by
  intro a ha
  have hfind := h.1 field List.mem_cons_self
  have hread : kind.reader.readField scope.version record field = .ok a := ha
  cases hu : source.get? field with
  | none =>
    rw [hu] at hfind
    simp [Reader.readField, Record.value, Record.require, hfind, bind, Except.bind, throw, throwThe,
      MonadExceptOf.throw] at hread
  | some u =>
    rw [hu] at hfind
    rw [Reader.readField_eq hfind] at hread
    exact ⟨u, hu, mapError_ok.mp hread⟩

/-- The building blocks of members that may be null or missing differ in what they declare, and are
read the same way. -/
theorem Shaped.found_alone (h : (Slot.one field kind).Shaped record source) (scope : Scope)
    (a : Option kind.Value)
    (ha : kind.reader.readOptionalField scope.version record field = .ok a) :
    (Part.one field kind a).ReadAlone scope.version source := by
  have hfind := h.1 field List.mem_cons_self
  rw [Reader.readOptionalField_eq hfind] at ha
  cases hgiven : source.given? field with
  | none =>
    rw [Json.given?] at hgiven
    rw [hgiven] at ha
    obtain rfl := Except.ok.inj ha
    exact hgiven
  | some u =>
    have hget := Json.get?_of_given? hgiven
    rw [Json.given?] at hgiven
    rw [hgiven] at ha
    obtain ⟨value, hvalue, rfl⟩ := Checker.map_ok ha
    exact ⟨u, hget, mapError_ok.mp hvalue⟩

theorem Shaped.many_alone (h : (Slot.many field kind).Shaped record source) {scope : Scope}
    (hv : Version.v2_0 ≤ scope.version) :
    (Layout.many kind.reader field).Gives scope record fun as =>
      (Part.many field kind as).ReadAlone scope.version source := by
  intro as has
  have hread : kind.reader.readListField scope.version record field = .ok as := has
  obtain ⟨items, hitems, hobjects⟩ := h.2
  have hfind := h.1 field List.mem_cons_self
  rw [hitems] at hfind
  rw [Reader.readListField_eq hfind] at hread
  have hlist : kind.reader.readList scope.version (.list items) = .ok as := mapError_ok.mp hread
  refine ⟨items, hitems, hlist, ?_⟩
  rw [Kind.readList_objects hv hobjects] at hlist
  exact Reader.readItems_ok.mp hlist

theorem Shaped.pair_alone {scope : Scope} {first second label : String}
    (h : (Slot.batch label [first, second] kind).Shaped record source) (plural : String)
    (hv : Version.v2_0 ≤ scope.version) :
    (Layout.pair kind.reader first second label plural).Gives scope record fun ends =>
      (Part.one first kind (some ends.1)).ReadAlone scope.version source ∧
        (Part.one second kind (some ends.2)).ReadAlone scope.version source := by
  intro ends hends
  obtain ⟨a, ha, haobject⟩ := h.2 first List.mem_cons_self
  obtain ⟨b, hb, hbobject⟩ := h.2 second (List.mem_cons_of_mem _ List.mem_cons_self)
  have hfinda := h.1 first List.mem_cons_self
  have hfindb := h.1 second (List.mem_cons_of_mem _ List.mem_cons_self)
  rw [ha] at hfinda
  rw [hb] at hfindb
  have hlist := Layout.read_pair_ok hfinda hfindb hends
  rw [Kind.readList_objects hv (List.forall_mem_cons.mpr
    ⟨haobject, List.forall_mem_singleton.mpr hbobject⟩)] at hlist
  obtain ⟨x, xs, hx, hxs, heq⟩ := mapM_cons_ok.mp (Reader.readItems_ok.mp hlist)
  obtain ⟨rfl, rfl⟩ := List.cons.inj heq
  obtain ⟨y, ys, hy, -, heq⟩ := mapM_cons_ok.mp hxs
  obtain ⟨rfl, -⟩ := List.cons.inj heq
  exact ⟨⟨a, ha, hx⟩, ⟨b, hb, hy⟩⟩

/-- What is in a slot can be read alone: an object, a list of objects, or each object of a batch. -/
def ReadsAlone (v : Version) (source : Json) : Slot → Prop
  | one field kind => ∀ u, source.given? field = some u → ∃ r, kind.reader.read v u = .ok r
  | many field kind => ∀ u, source.given? field = some u → ∃ rs, kind.reader.readList v u = .ok rs
  | batch _ fields kind =>
    ∀ field ∈ fields, ∀ u, source.get? field = some u → ∃ r, kind.reader.read v u = .ok r

theorem Shaped.pass_iff {v : Version} (hv : Version.v2_0 ≤ v) {s : Slot}
    (h : s.Shaped record source) : s.pass v source = .ok () ↔ s.ReadsAlone v source := by
  cases s with
  | one field kind =>
    rw [pass, ReadsAlone]
    cases source.given? field with
    | none => simp
    | some u => simp [mapError_ok, verdict_ok]
  | many field kind =>
    rw [pass, ReadsAlone]
    cases source.given? field with
    | none => simp
    | some u => simp [mapError_ok, verdict_ok]
  | batch label fields kind =>
    have hlist : kind.reader.readList v (.list (fields.filterMap (source.get? ·))) =
        Reader.readItems kind.typeName (kind.reader.read v) 0 (fields.filterMap (source.get? ·)) :=
      Kind.readList_objects hv h.batch_objects
    rw [pass, ReadsAlone, mapError_ok, verdict_ok, hlist]
    simp only [Reader.readItems_ok, mapM_ok_iff, List.mem_filterMap]
    constructor
    · exact fun hall field hfield u hu => hall u ⟨field, hfield, hu⟩
    · rintro hall u ⟨field, hfield, hu⟩
      exact hall field hfield u hu

end Slot

namespace Kind

open Layout in
/-- **The parts of what is read** are what reading them alone gives. -/
theorem layout_parts (k : Kind) (scope : Scope) (hv : Version.v2_0 ≤ scope.version)
    {record : Record} {source : Json} (hshaped : ∀ s ∈ k.slots, s.Shaped record source) :
    k.layout.Gives scope record fun r => Part.AllReadAlone scope.version source (k.parts r) := by
  -- A layout is taken apart from its last block to its first; what a block gives is known by then.
  cases k with
  | subnet =>
    have hvlan := (hshaped (.one "vlan" vlan) (by simp [slots])).one_alone scope
    refine .skip (.seq ?_ hvlan)
    iterate 5 apply Gives.skip
    refine .map ?_
    intros
    exact .cons ‹_› .nil
  | fabric =>
    have hvlans := (hshaped (.many "vlans" vlan) (by simp [slots])).many_alone hv
    refine .seq ?_ hvlans
    iterate 3 apply Gives.skip
    refine .map ?_
    intros
    exact .cons ‹_› .nil
  | space =>
    have hsubnets := (hshaped (.many "subnets" subnet) (by simp [slots])).many_alone hv
    refine .seq (.skip (.skip (.map ?_))) hsubnets
    intros
    exact .cons ‹_› .nil
  | staticRoute =>
    have hends := (hshaped (.batch "source and destination" ["source", "destination"] subnet)
      (by simp [slots])).pair_alone "subnets" hv
    refine .skip (.skip (.seq (.skip (.map ?_)) hends))
    intro uri id ends halone gateway metric
    exact .cons halone.1 (.cons halone.2 .nil)
  | link =>
    have hsubnet := (hshaped (.one "subnet" subnet) (by simp [slots])).found_alone scope
    refine .skip (.seq (.skip (.map ?_)) hsubnet)
    intros
    exact .cons ‹_› .nil
  | interface =>
    have hvlan := (hshaped (.one "vlan" vlan) (by simp [slots])).found_alone scope
    have hlinks := (hshaped (.many "links" link) (by simp [slots])).many_alone hv
    refine .skip (.skip (.skip (.skip (.seq (.seq ?_ hvlan) hlinks))))
    iterate 5 apply Gives.skip
    refine .map ?_
    intros
    exact .cons ‹_› (.cons ‹_› .nil)
  | partition =>
    have hfilesystem := (hshaped (.one "filesystem" filesystem)
      (by simp [slots])).found_alone scope
    refine .seq ?_ hfilesystem
    iterate 5 apply Gives.skip
    refine .map ?_
    intros
    exact .cons ‹_› .nil
  | blockDevice =>
    have hpartitions := (hshaped (.many "partitions" partition) (by simp [slots])).many_alone hv
    refine .seq ?_ hpartitions
    iterate 11 apply Gives.skip
    refine .map ?_
    intros
    exact .cons ‹_› .nil
  | machine =>
    have hboot := (hshaped (.one "boot_interface" interface) (by simp [slots])).found_alone scope
    have hset := (hshaped (.many "interface_set" interface) (by simp [slots])).many_alone hv
    have hzone := (hshaped (.one "zone" zone) (by simp [slots])).one_alone scope
    have hphysical := (hshaped (.many "physicalblockdevice_set" blockDevice)
      (by simp [slots])).many_alone hv
    have hall := (hshaped (.many "blockdevice_set" blockDevice) (by simp [slots])).many_alone hv
    refine .seq (.seq (.seq (.seq (.seq ?_ hboot) hset) hzone) hphysical) hall
    iterate 15 apply Gives.skip
    refine .map ?_
    intros
    exact .cons ‹_› (.cons ‹_› (.cons ‹_› (.cons ‹_› (.cons ‹_› .nil))))
  | device =>
    have hset := (hshaped (.many "interface_set" interface) (by simp [slots])).many_alone hv
    have hzone := (hshaped (.one "zone" zone) (by simp [slots])).one_alone scope
    refine .seq (.seq ?_ hset) hzone
    iterate 6 apply Gives.skip
    refine .map ?_
    intros
    exact .cons ‹_› (.cons ‹_› .nil)
  | _ => exact fun _ _ => .nil

/-- **Embedded resources read as they do alone.** An object can be read if it has nothing wrong with
itself and all that it embeds can be read alone. The resource then has a part for every member that
embeds something, and each part is what reading the member alone gives, item by item for a list. -/
theorem read_embedded (k : Kind) {v : Version} (hv : Version.v2_0 ≤ v) {source : Json}
    (hobject : source.isObject = true) :
    ((∃ r, k.reader.read v source = .ok r) ↔
      k.Accepts source ∧ ∀ s ∈ k.slots, s.ReadsAlone v source) ∧
    ∀ r, k.reader.read v source = .ok r →
      (k.parts r).map Part.place =
        (k.slots.flatMap fun s => s.fields.map fun field => (field, s.kind)) ∧
      ∀ p ∈ k.parts r, p.ReadAlone v source := by
  have hstages := k.read_stages hv hobject
  refine ⟨?_, fun r hr => ⟨k.parts_places r, ?_⟩⟩
  · rw [← verdict_ok, hstages, Accepts]
    cases hown : k.ownCheck source with
    | error fault => simp [Except.bind]
    | ok =>
      obtain ⟨record, hcheck⟩ := Accepts.checked hown
      simp only [ok_mapError, Except.bind, forM_ok, true_and]
      exact forall₂_congr fun s hs => (slots_shaped hcheck hs).pass_iff hv
  · rw [read_object k hv hobject, Layout.readMembers, checkFields] at hr
    cases hcheck : k.layout.schema.check source with
    | error fault =>
      rw [hcheck] at hr
      cases hr
    | ok record =>
      rw [hcheck] at hr
      exact k.layout_parts ⟨k.typeName, v⟩ hv (fun s hs => slots_shaped hcheck hs) r hr

/-- The document of a partition with a file system. -/
def partitionDocument : Json :=
  .object [("filesystem", .object [("fstype", .string "ext4"), ("mount_point", .string "/")]),
    ("id", .integer 1), ("path", .string "/dev/sda1"), ("resource_uri", .string "/partitions/1/"),
    ("size", .integer 1024), ("used_for", .string "ext4")]

theorem read_embedded_partition :
    Version.v2_0 ≤ Version.v2_0 ∧ partitionDocument.isObject = true ∧
    (partition.Accepts partitionDocument ∧
      ∀ s ∈ partition.slots, s.ReadsAlone .v2_0 partitionDocument) ∧
    ∃ r, partition.reader.read .v2_0 partitionDocument = .ok r ∧
      ∀ p ∈ partition.parts r, p.ReadAlone .v2_0 partitionDocument :=
  ⟨by decide, rfl, (read_embedded partition (by decide) rfl).1.mp ⟨_, rfl⟩,
    _, rfl, ((read_embedded partition (by decide) rfl).2 _ rfl).2⟩

end Kind

end RegionClient
