import RegionClient.Proofs.Members
import RegionClient.Resource.BootImage
import RegionClient.Resource.Device
import RegionClient.Resource.Fabric
import RegionClient.Resource.Machine
import RegionClient.Resource.Space
import RegionClient.Resource.StaticRoute
import RegionClient.Resource.StoredFile
import RegionClient.Resource.VersionInfo

set_option autoImplicit false

/-! # The kinds of resources

All resources in one enumeration, with their wire forms and readers, and the graph of which kind
holds which others: `Kind.slots`. The graph has no cycles, so that what holds of a kind whenever it
holds of the kinds that it embeds holds of all (`Kind.slots_induction`).

Once its members are checked, reading a kind can only fail at its hurdles: a text with a form of its
own, or an embedded resource. `Layout.Clears` says which hurdles a layout meets, by the building
blocks it is put together from, and `Kind.layout_clears` that those of a kind are the ones in the
tables.
-/

namespace RegionClient

/-! ## Kinds -/

/-- The kinds of resources. -/
inductive Kind where
  | zone | vlan | fabric | subnet | space | staticRoute | link | interface | filesystem | partition
  | blockDevice | machine | device | storedFile | bootImage | versionInfo
  deriving DecidableEq

namespace Kind

/-- What a resource of a kind is read as. -/
def Value : Kind → Type
  | zone => Zone
  | vlan => Vlan
  | fabric => Fabric
  | subnet => Subnet
  | space => Space
  | staticRoute => StaticRoute
  | link => Link
  | interface => Interface
  | filesystem => Filesystem
  | partition => Partition
  | blockDevice => BlockDevice
  | machine => Machine
  | device => Device
  | storedFile => StoredFile
  | bootImage => BootImage
  | versionInfo => VersionInfo

/-- The wire form of a kind. -/
def layout : (k : Kind) → Layout k.Value
  | zone => Zone.layout
  | vlan => Vlan.layout
  | fabric => Fabric.layout
  | subnet => Subnet.layout
  | space => Space.layout
  | staticRoute => StaticRoute.layout
  | link => Link.layout
  | interface => Interface.layout
  | filesystem => Filesystem.layout
  | partition => Partition.layout
  | blockDevice => BlockDevice.layout
  | machine => Machine.layout
  | device => Device.layout
  | storedFile => StoredFile.layout
  | bootImage => BootImage.layout
  | versionInfo => VersionInfo.layout

/-- The reader of a kind. -/
def reader : (k : Kind) → Reader k.Value
  | zone => Zone.reader
  | vlan => Vlan.reader
  | fabric => Fabric.reader
  | subnet => Subnet.reader
  | space => Space.reader
  | staticRoute => StaticRoute.reader
  | link => Link.reader
  | interface => Interface.reader
  | filesystem => Filesystem.reader
  | partition => Partition.reader
  | blockDevice => BlockDevice.reader
  | machine => Machine.reader
  | device => Device.reader
  | storedFile => StoredFile.reader
  | bootImage => BootImage.reader
  | versionInfo => VersionInfo.reader

/-- The name of a kind in messages. -/
def typeName (k : Kind) : String :=
  k.reader.typeName

/-- The members that a kind declares. -/
def schema (k : Kind) : Schema :=
  k.layout.schema

theorem reader_eq (k : Kind) : k.reader = k.layout.reader k.typeName := by
  cases k <;> rfl

theorem names_nodup (k : Kind) : (k.schema.map Member.name).Nodup := by
  cases k <;> decide

end Kind

/-! ## Words and slots -/

/-- A text with a form of its own, which is looked at when all members are checked. -/
structure Word where
  field : String
  check : String → Except ReadFault Unit

/-- The system id of a machine or device. -/
def Word.systemId : Word :=
  ⟨"system_id", fun s => if IsSystemId s then .ok () else .error (.rejected (.systemId s))⟩

/-- The release in a version document. -/
def Word.release : Word :=
  ⟨"version", fun s =>
    if (Version.parse? (VersionInfo.numericPart s)).isSome then .ok ()
    else .error (.rejected (.version (VersionInfo.numericPart s)))⟩

/-- Where a resource holds embedded ones. -/
inductive Slot where
  /-- One in a member, unless that is missing or null. -/
  | one (field : String) (kind : Kind)
  /-- Any number in the list in a member. -/
  | many (field : String) (kind : Kind)
  /-- One in each of some members, read as a batch under a label. -/
  | batch (label : String) (fields : List String) (kind : Kind)

/-- The kind of what a slot holds. -/
def Slot.kind : Slot → Kind
  | one _ kind | many _ kind | batch _ _ kind => kind

/-- The members that a slot is read from. -/
def Slot.fields : Slot → List String
  | one field _ | many field _ => [field]
  | batch _ fields _ => fields

namespace Kind

/-- The texts of a kind that have a form of their own. -/
def words : Kind → List Word
  | machine | device => [.systemId]
  | versionInfo => [.release]
  | _ => []

/-- Where a kind holds others, in the order in which they are read. -/
def slots : Kind → List Slot
  | subnet => [.one "vlan" vlan]
  | fabric => [.many "vlans" vlan]
  | space => [.many "subnets" subnet]
  | staticRoute => [.batch "source and destination" ["source", "destination"] subnet]
  | link => [.one "subnet" subnet]
  | interface => [.one "vlan" vlan, .many "links" link]
  | partition => [.one "filesystem" filesystem]
  | blockDevice => [.many "partitions" partition]
  | machine =>
    [.one "boot_interface" interface, .many "interface_set" interface, .one "zone" zone,
      .many "physicalblockdevice_set" blockDevice, .many "blockdevice_set" blockDevice]
  | device => [.many "interface_set" interface, .one "zone" zone]
  | _ => []

/-- The levels of resources below a kind. -/
def depth : Kind → Nat
  | subnet | fabric | partition => 1
  | space | staticRoute | link | blockDevice => 2
  | interface => 3
  | machine | device => 4
  | _ => 0

theorem depth_slots (k : Kind) : ∀ s ∈ k.slots, s.kind.depth < k.depth := by
  cases k <;> simp [slots, Slot.kind, depth]

/-- **Induction along the graph.** What holds of a kind if it holds of those that the kind embeds
holds of every kind. -/
theorem slots_induction {P : Kind → Prop} (h : ∀ k : Kind, (∀ s ∈ k.slots, P s.kind) → P k)
    (k : Kind) : P k := by
  induction hk : k.depth using Nat.strongRecOn generalizing k with
  | ind n ih =>
    subst hk
    exact h k fun s hs => ih _ (k.depth_slots s hs) s.kind rfl

end Kind

/-! ## Hurdles -/

/-- What reading can still fail at when all members are checked. -/
inductive Hurdle where
  | word (w : Word)
  | slot (s : Slot)

/-- The hurdles of a kind. -/
def Kind.hurdles (k : Kind) : List Hurdle :=
  k.words.map .word ++ k.slots.map .slot

@[simp] theorem Kind.slot_mem_hurdles {k : Kind} {s : Slot} :
    .slot s ∈ k.hurdles ↔ s ∈ k.slots := by
  simp [hurdles]

namespace Layout

/-- Reading a layout meets the hurdles at the head of a list and leaves the rest of it. There is one
case for each way to put layouts together and for each kind of building block. -/
inductive Clears : {α : Type} → List Hurdle → Layout α → List Hurdle → Prop where
  | map {α β : Type} {hs rest : List Hurdle} {x : Layout α} (g : α → β) (hx : Clears hs x rest) :
      Clears hs (g <$> x) rest
  | seq {α β : Type} {hs mid rest : List Hurdle} {f : Layout (α → β)} {x : Layout α}
      (hf : Clears hs f mid) (hx : Clears mid x rest) : Clears hs (f <*> x) rest
  | member {α : Type} {hs : List Hurdle} (name : String) {checker : Checker} {presence : Presence}
      {get : Record → String → Except SchemaFault α} (h : Member.ReadBy checker presence get) :
      Clears hs (Layout.member name checker presence get) hs
  | word {α : Type} {hs : List Hurdle} (w : Word) {f : String → Except ReadFault α}
      (h : ∀ s, verdict (f s) = w.check s) :
      Clears (.word w :: hs) (Layout.refine w.field (Layout.text w.field) f) hs
  | one {hs : List Hurdle} (field : String) (kind : Kind) :
      Clears (.slot (.one field kind) :: hs) (Layout.one kind.reader field) hs
  | nullable {hs : List Hurdle} (field : String) (kind : Kind) :
      Clears (.slot (.one field kind) :: hs) (Layout.nullable kind.reader field) hs
  | optional {hs : List Hurdle} (field : String) (kind : Kind) :
      Clears (.slot (.one field kind) :: hs) (Layout.optional kind.reader field) hs
  | omissible {hs : List Hurdle} (field : String) (kind : Kind) :
      Clears (.slot (.one field kind) :: hs) (Layout.omissible kind.reader field) hs
  | many {hs : List Hurdle} (field : String) (kind : Kind) :
      Clears (.slot (.many field kind) :: hs) (Layout.many kind.reader field) hs
  | pair {hs : List Hurdle} (first second label plural : String) (kind : Kind) :
      Clears (.slot (.batch label [first, second] kind) :: hs)
        (Layout.pair kind.reader first second label plural) hs

namespace Clears

variable {hs : List Hurdle} (name : String)

theorem text : Clears hs (Layout.text name) hs :=
  .member name .text

theorem textOrEmpty : Clears hs (Layout.textOrEmpty name) hs :=
  .member name .textOrEmpty

theorem optionalText : Clears hs (Layout.optionalText name) hs :=
  .member name .optionalText

theorem int : Clears hs (Layout.int name) hs :=
  .member name .int

theorem size : Clears hs (Layout.size name) hs :=
  .member name .size

theorem flag : Clears hs (Layout.flag name) hs :=
  .member name .flag

theorem texts : Clears hs (Layout.texts name) hs :=
  .member name .texts

theorem textsOrEmpty : Clears hs (Layout.textsOrEmpty name) hs :=
  .member name .textsOrEmpty

theorem textMapOrEmpty : Clears hs (Layout.textMapOrEmpty name) hs :=
  .member name .textMapOrEmpty

theorem systemId : Clears (.word .systemId :: hs) (Layout.systemId "system_id") hs := by
  refine .word .systemId fun s => ?_
  by_cases h : IsSystemId s <;> simp [Word.systemId, SystemId.parse?, h, verdict, Except.map]

theorem release : Clears (.word .release :: hs) (VersionInfo.release "version") hs := by
  refine .word .release fun s => ?_
  cases h : Version.parse? (VersionInfo.numericPart s) <;>
    simp [Word.release, h, verdict, Except.map]

/-- A layout leaves no hurdles that it did not have before it. -/
theorem subset {α : Type} {rest : List Hurdle} {x : Layout α} (hx : Clears hs x rest) :
    ∀ h ∈ rest, h ∈ hs := by
  induction hx with
  | map g hx ih => exact ih
  | seq hf hx ihf ihx => exact fun h hh => ihf h (ihx h hh)
  | member name h => exact fun h hh => hh
  | _ => exact fun h hh => List.mem_cons_of_mem _ hh

end Clears

end Layout

open Layout in
/-- **The layout of a kind meets its hurdles**, in the order of the tables, and no others. -/
theorem Kind.layout_clears : (k : Kind) → k.layout.Clears k.hurdles []
  | zone => Clears.map _ (.text _) |>.seq (.textOrEmpty _) |>.seq (.textOrEmpty _)
  | vlan =>
    Clears.map _ (.int _) |>.seq (.text _) |>.seq (.textOrEmpty _) |>.seq (.text _)
      |>.seq (.int _) |>.seq (.int _) |>.seq (.flag _) |>.seq (.textOrEmpty _)
      |>.seq (.textOrEmpty _)
  | fabric =>
    Clears.map _ (.text _) |>.seq (.int _) |>.seq (.text _) |>.seq (.textOrEmpty _)
      |>.seq (.many _ vlan)
  | subnet =>
    Clears.map _ (.text _) |>.seq (.int _) |>.seq (.text _) |>.seq (.text _)
      |>.seq (.textOrEmpty _) |>.seq (.text _) |>.seq (.one _ vlan) |>.seq (.textsOrEmpty _)
  | space => Clears.map _ (.text _) |>.seq (.int _) |>.seq (.text _) |>.seq (.many _ subnet)
  | staticRoute =>
    Clears.map _ (.text _) |>.seq (.int _) |>.seq (.pair _ _ _ _ subnet) |>.seq (.text _)
      |>.seq (.int _)
  | link =>
    Clears.map _ (.int _) |>.seq (.map _ (.text _)) |>.seq (.omissible _ subnet)
      |>.seq (.textOrEmpty _)
  | interface =>
    Clears.map _ (.text _) |>.seq (.int _) |>.seq (.text _) |>.seq (.text _) |>.seq (.flag _)
      |>.seq (.textsOrEmpty _) |>.seq (.nullable _ vlan) |>.seq (.many _ link)
      |>.seq (.textOrEmpty _) |>.seq (.int _) |>.seq (.texts _) |>.seq (.texts _)
  | filesystem =>
    Clears.map _ (.text _) |>.seq (.textOrEmpty _) |>.seq (.textOrEmpty _) |>.seq (.textOrEmpty _)
  | partition =>
    Clears.map _ (.text _) |>.seq (.int _) |>.seq (.text _) |>.seq (.textOrEmpty _)
      |>.seq (.text _) |>.seq (.size _) |>.seq (.optional _ filesystem)
  | blockDevice =>
    Clears.map _ (.text _) |>.seq (.int _) |>.seq (.textOrEmpty _) |>.seq (.text _)
      |>.seq (.textOrEmpty _) |>.seq (.textOrEmpty _) |>.seq (.text _) |>.seq (.text _)
      |>.seq (.texts _) |>.seq (.size _) |>.seq (.size _) |>.seq (.size _)
      |>.seq (.many _ partition)
  | machine =>
    Clears.map _ (.text _) |>.seq .systemId |>.seq (.text _) |>.seq (.text _) |>.seq (.texts _)
      |>.seq (.textOrEmpty _) |>.seq (.textMapOrEmpty _) |>.seq (.text _) |>.seq (.text _)
      |>.seq (.textOrEmpty _) |>.seq (.int _) |>.seq (.int _) |>.seq (.texts _) |>.seq (.text _)
      |>.seq (.text _) |>.seq (.textOrEmpty _) |>.seq (.optional _ interface)
      |>.seq (.many _ interface) |>.seq (.one _ zone) |>.seq (.many _ blockDevice)
      |>.seq (.many _ blockDevice)
  | device =>
    Clears.map _ (.text _) |>.seq .systemId |>.seq (.text _) |>.seq (.text _)
      |>.seq (.textOrEmpty _) |>.seq (.textOrEmpty _) |>.seq (.texts _) |>.seq (.many _ interface)
      |>.seq (.one _ zone)
  | storedFile =>
    Clears.map _ (.text _) |>.seq (.text _) |>.seq (.text _) |>.seq (.optionalText _)
  | bootImage =>
    Clears.map _ (.text _) |>.seq (.int _) |>.seq (.text _) |>.seq (.text _) |>.seq (.text _)
      |>.seq (.map _ (.textOrEmpty _)) |>.seq (.textOrEmpty _)
  | versionInfo =>
    Clears.map _ .release |>.seq (.textOrEmpty _) |>.seq (.map _ (.texts _))

end RegionClient
