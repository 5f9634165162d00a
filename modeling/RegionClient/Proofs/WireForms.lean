import RegionClient.Proofs.Kinds

set_option autoImplicit false

/-! # Wire forms

The document that a region controller sends for a resource, in its plainest form: every member
under its name, integers as integers, and null for what there is not. `Kind.document` has it for all
kinds, and `Kind.Writable` the resources that have one: a mode of a link is not written under the
name of another mode, and names in a list with commas have no commas themselves, nor blanks around
them.
-/

namespace RegionClient

/-! ## Fields -/

/-- What an object has under a name, if it has anything there. -/
structure Field where
  name : String
  value : Option Json

namespace Field

/-- A text. -/
def text (name value : String) : Field :=
  ⟨name, some (.string value)⟩

/-- A signed integer. -/
def int (name : String) (n : Int64) : Field :=
  ⟨name, some (.integer n.toInt)⟩

/-- An unsigned integer. -/
def size (name : String) (n : UInt64) : Field :=
  ⟨name, some (.integer n.toNat)⟩

/-- A truth value. -/
def flag (name : String) (b : Bool) : Field :=
  ⟨name, some (.bool b)⟩

/-- A list of texts. -/
def texts (name : String) (items : List String) : Field :=
  ⟨name, some (.list (items.map .string))⟩

/-- A map of texts. -/
def textMap (name : String) (map : SortedMap String) : Field :=
  ⟨name, some (.object (map.entries.map fun e => (e.1, .string e.2)))⟩

/-- A document. -/
def one (name : String) (u : Json) : Field :=
  ⟨name, some u⟩

/-- A document, or null in its place. -/
def nullable (name : String) (found : Option Json) : Field :=
  ⟨name, some (found.getD .null)⟩

/-- A document, or nothing. -/
def omissible (name : String) (found : Option Json) : Field :=
  ⟨name, found⟩

/-- A list of documents. -/
def many (name : String) (us : List Json) : Field :=
  ⟨name, some (.list us)⟩

end Field

namespace Json

/-- The object with some fields. -/
def ofFields (fields : List Field) : Json :=
  object (fields.foldl (fun map f => map.insertSome f.name f.value) SortedMap.empty).entries

/-- The object has what the fields say, whatever it has under other names. -/
def Has (source : Json) (fields : List Field) : Prop :=
  ∀ f ∈ fields, source.get? f.name = f.value

end Json

theorem SortedMap.get?_foldl_insertSome {fields : List Field} (map : SortedMap Json)
    (hnodup : (fields.map Field.name).Nodup) :
    (∀ f ∈ fields, map.get? f.name = none →
      (fields.foldl (fun map f => map.insertSome f.name f.value) map).get? f.name = f.value) ∧
    ∀ name, name ∉ fields.map Field.name →
      (fields.foldl (fun map f => map.insertSome f.name f.value) map).get? name =
        map.get? name := by
  induction fields generalizing map with
  | nil => exact ⟨fun f hf => (nomatch hf), fun _ _ => rfl⟩
  | cons first rest ih =>
    obtain ⟨hfirst, hrest⟩ := List.nodup_cons.mp hnodup
    obtain ⟨hmem, hother⟩ := ih (map.insertSome first.name first.value) hrest
    refine ⟨fun f hf hnone => ?_, fun name hname => ?_⟩
    · rw [List.foldl_cons]
      rcases List.mem_cons.mp hf with rfl | hf
      · rw [hother _ hfirst, get?_insertSome, if_pos rfl, hnone]
        cases f.value <;> rfl
      · have hne : first.name ≠ f.name := fun heq => hfirst (heq ▸ List.mem_map_of_mem hf)
        exact hmem f hf (by rw [get?_insertSome, if_neg hne, hnone])
    · rw [List.map_cons, List.mem_cons, not_or] at hname
      rw [List.foldl_cons, hother name hname.2, get?_insertSome, if_neg (Ne.symm hname.1)]

/-- An object with fields of different names has what they say. -/
theorem Json.ofFields_has {fields : List Field} (hnodup : (fields.map Field.name).Nodup) :
    (ofFields fields).Has fields := fun f hf =>
  (SortedMap.get?_foldl_insertSome .empty hnodup).1 f hf rfl

/-! ## Documents -/

/-- The document of a zone. -/
def Zone.document (r : Zone) : Json :=
  .ofFields [.text "name" r.name, .text "description" r.description,
    .text "resource_uri" r.resourceUri]

/-- The document of a virtual network. -/
def Vlan.document (r : Vlan) : Json :=
  .ofFields [.int "id" r.id, .text "resource_uri" r.resourceUri, .text "name" r.name,
    .text "fabric" r.fabric, .int "vid" r.vid, .int "mtu" r.mtu, .flag "dhcp_on" r.dhcp,
    .text "primary_rack" r.primaryRack, .text "secondary_rack" r.secondaryRack]

/-- The document of a fabric. -/
def Fabric.document (r : Fabric) : Json :=
  .ofFields [.text "resource_uri" r.resourceUri, .int "id" r.id, .text "name" r.name,
    .text "class_type" r.classType, .many "vlans" (r.vlans.map Vlan.document)]

/-- The document of a subnet. -/
def Subnet.document (r : Subnet) : Json :=
  .ofFields [.text "resource_uri" r.resourceUri, .int "id" r.id, .text "name" r.name,
    .text "space" r.space, .text "gateway_ip" r.gateway, .text "cidr" r.cidr,
    .one "vlan" r.vlan.document, .texts "dns_servers" r.dnsServers]

/-- The document of a space. -/
def Space.document (r : Space) : Json :=
  .ofFields [.text "resource_uri" r.resourceUri, .int "id" r.id, .text "name" r.name,
    .many "subnets" (r.subnets.map Subnet.document)]

/-- The document of a static route. -/
def StaticRoute.document (r : StaticRoute) : Json :=
  .ofFields [.text "resource_uri" r.resourceUri, .int "id" r.id, .one "source" r.source.document,
    .one "destination" r.destination.document, .text "gateway_ip" r.gatewayIp,
    .int "metric" r.metric]

/-- The document of a link. The subnet is left out if there is none. -/
def Link.document (r : Link) : Json :=
  .ofFields [.int "id" r.id, .text "mode" r.mode.text,
    .omissible "subnet" (r.subnet.map Subnet.document), .text "ip_address" r.ipAddress]

/-- The document of an interface. -/
def Interface.document (r : Interface) : Json :=
  .ofFields [.text "resource_uri" r.resourceUri, .int "id" r.id, .text "name" r.name,
    .text "type" r.kind, .flag "enabled" r.enabled, .texts "tags" r.tags,
    .nullable "vlan" (r.vlan.map Vlan.document), .many "links" (r.links.map Link.document),
    .text "mac_address" r.macAddress, .int "effective_mtu" r.effectiveMtu,
    .texts "parents" r.parents, .texts "children" r.children]

/-- The document of a file system. -/
def Filesystem.document (r : Filesystem) : Json :=
  .ofFields [.text "fstype" r.kind, .text "mount_point" r.mountPoint, .text "label" r.label,
    .text "uuid" r.uuid]

/-- The document of a partition. -/
def Partition.document (r : Partition) : Json :=
  .ofFields [.text "resource_uri" r.resourceUri, .int "id" r.id, .text "path" r.path,
    .text "uuid" r.uuid, .text "used_for" r.usedFor, .size "size" r.size,
    .nullable "filesystem" (r.filesystem.map Filesystem.document)]

/-- The document of a block device. -/
def BlockDevice.document (r : BlockDevice) : Json :=
  .ofFields [.text "resource_uri" r.resourceUri, .int "id" r.id, .text "uuid" r.uuid,
    .text "name" r.name, .text "model" r.model, .text "id_path" r.idPath, .text "path" r.path,
    .text "used_for" r.usedFor, .texts "tags" r.tags, .size "block_size" r.blockSize,
    .size "used_size" r.usedSize, .size "size" r.size,
    .many "partitions" (r.partitions.map Partition.document)]

/-- The document of a machine. -/
def Machine.document (r : Machine) : Json :=
  .ofFields [.text "resource_uri" r.resourceUri, .text "system_id" r.systemId.text,
    .text "hostname" r.hostname, .text "fqdn" r.fqdn, .texts "tag_names" r.tags,
    .text "owner" r.owner, .textMap "owner_data" r.ownerData, .text "osystem" r.operatingSystem,
    .text "distro_series" r.distroSeries, .text "architecture" r.architecture,
    .int "memory" r.memory, .int "cpu_count" r.cpuCount, .texts "ip_addresses" r.ipAddresses,
    .text "power_state" r.powerState, .text "status_name" r.statusName,
    .text "status_message" r.statusMessage,
    .nullable "boot_interface" (r.bootInterface.map Interface.document),
    .many "interface_set" (r.interfaces.map Interface.document), .one "zone" r.zone.document,
    .many "physicalblockdevice_set" (r.physicalBlockDevices.map BlockDevice.document),
    .many "blockdevice_set" (r.blockDevices.map BlockDevice.document)]

/-- The document of a device. -/
def Device.document (r : Device) : Json :=
  .ofFields [.text "resource_uri" r.resourceUri, .text "system_id" r.systemId.text,
    .text "hostname" r.hostname, .text "fqdn" r.fqdn, .text "parent" r.parent,
    .text "owner" r.owner, .texts "ip_addresses" r.ipAddresses,
    .many "interface_set" (r.interfaces.map Interface.document), .one "zone" r.zone.document]

/-- The document of a stored file. -/
def StoredFile.document (r : StoredFile) : Json :=
  .ofFields [.text "resource_uri" r.resourceUri, .text "filename" r.filename,
    .text "anon_resource_uri" r.anonUri, .nullable "content" (r.content.map .string)]

/-- The document of a boot image. -/
def BootImage.document (r : BootImage) : Json :=
  .ofFields [.text "resource_uri" r.resourceUri, .int "id" r.id, .text "name" r.name,
    .text "type" r.kind, .text "architecture" r.architecture,
    .text "subarches" (Text.joined "," r.subArchitectures.toList),
    .text "kflavor" r.kernelFlavor]

/-- The document of what a controller says of itself. -/
def VersionInfo.document (r : VersionInfo) : Json :=
  .ofFields [.text "version" r.version.text, .text "subversion" r.subversion,
    .texts "capabilities" r.capabilities.toList]

/-- The document of a resource. -/
def Kind.document : (k : Kind) → k.Value → Json
  | zone => Zone.document
  | vlan => Vlan.document
  | fabric => Fabric.document
  | subnet => Subnet.document
  | space => Space.document
  | staticRoute => StaticRoute.document
  | link => Link.document
  | interface => Interface.document
  | filesystem => Filesystem.document
  | partition => Partition.document
  | blockDevice => BlockDevice.document
  | machine => Machine.document
  | device => Device.document
  | storedFile => StoredFile.document
  | bootImage => BootImage.document
  | versionInfo => VersionInfo.document

/-! ## What can be written -/

/-- A mode with a name of its own does not go by the name of another, in any case of ASCII
letters. -/
def LinkMode.Writable : LinkMode → Prop
  | other name => lowered name ∉ [dhcp, static, linkUp, auto].map text
  | _ => True

/-- The mode of the link can be written. -/
def Link.Writable (r : Link) : Prop :=
  r.mode.Writable

/-- All links of the interface can be written. -/
def Interface.Writable (r : Interface) : Prop :=
  ∀ l ∈ r.links, l.Writable

/-- All interfaces of the machine can be written. -/
def Machine.Writable (r : Machine) : Prop :=
  (∀ i ∈ r.bootInterface, i.Writable) ∧ ∀ i ∈ r.interfaces, i.Writable

/-- All interfaces of the device can be written. -/
def Device.Writable (r : Device) : Prop :=
  ∀ i ∈ r.interfaces, i.Writable

/-- The sub-architectures can be written with commas between them. -/
def BootImage.Writable (r : BootImage) : Prop :=
  ∀ name ∈ r.subArchitectures.toList, name ≠ "" ∧ Text.trim name = name ∧ ',' ∉ name.toList

/-- The resource can be written. -/
def Kind.Writable : (k : Kind) → k.Value → Prop
  | link => Link.Writable
  | interface => Interface.Writable
  | machine => Machine.Writable
  | device => Device.Writable
  | bootImage => BootImage.Writable
  | _ => fun _ => True

instance : (mode : LinkMode) → Decidable mode.Writable
  | .other _ => inferInstanceAs (Decidable (_ ∉ _))
  | .dhcp | .static | .linkUp | .auto => .isTrue trivial

instance (r : Link) : Decidable r.Writable :=
  inferInstanceAs (Decidable r.mode.Writable)

instance (r : Interface) : Decidable r.Writable :=
  inferInstanceAs (Decidable (∀ l ∈ r.links, l.Writable))

instance (r : Machine) : Decidable r.Writable :=
  inferInstanceAs (Decidable (_ ∧ ∀ i ∈ r.interfaces, i.Writable))

instance (r : Device) : Decidable r.Writable :=
  inferInstanceAs (Decidable (∀ i ∈ r.interfaces, i.Writable))

instance (r : BootImage) : Decidable r.Writable :=
  inferInstanceAs (Decidable (∀ name ∈ r.subArchitectures.toList, _))

end RegionClient
