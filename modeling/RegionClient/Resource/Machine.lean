import RegionClient.Resource.Interface
import RegionClient.Resource.Storage
import RegionClient.Resource.Zone

set_option autoImplicit false

/-! # Machines -/

namespace RegionClient

/-- A machine under the control of a region. -/
structure Machine where
  resourceUri : String
  systemId : SystemId
  hostname : String
  fqdn : String
  tags : List String
  /-- The user it is allocated to, empty if it is not. -/
  owner : String
  /-- What the owner keeps with the allocation. -/
  ownerData : SortedMap String
  operatingSystem : String
  distroSeries : String
  /-- The architecture, empty if it is not known. -/
  architecture : String
  /-- The memory in MiB. -/
  memory : Int64
  cpuCount : Int64
  ipAddresses : List String
  powerState : String
  statusName : String
  statusMessage : String
  /-- The interface the machine boots from. -/
  bootInterface : Option Interface
  interfaces : List Interface
  zone : Zone
  physicalBlockDevices : List BlockDevice
  /-- All block devices, virtual ones among them. -/
  blockDevices : List BlockDevice
  deriving DecidableEq

namespace Machine

open Layout in
/-- The wire form of a machine. -/
def layout : Layout Machine :=
  Machine.mk <$> text "resource_uri" <*> Layout.systemId "system_id" <*> text "hostname" <*>
    text "fqdn" <*> texts "tag_names" <*> textOrEmpty "owner" <*> textMapOrEmpty "owner_data" <*>
    text "osystem" <*> text "distro_series" <*> textOrEmpty "architecture" <*> int "memory" <*>
    int "cpu_count" <*> texts "ip_addresses" <*> text "power_state" <*> text "status_name" <*>
    textOrEmpty "status_message" <*> optional Interface.reader "boot_interface" <*>
    many Interface.reader "interface_set" <*> one Zone.reader "zone" <*>
    many BlockDevice.reader "physicalblockdevice_set" <*> many BlockDevice.reader "blockdevice_set"

/-- The reader of machines. -/
def reader : Reader Machine :=
  layout.reader "machine"

/-- The interface with an id. -/
def interface? (m : Machine) (id : Int64) : Option Interface :=
  m.interfaces.find? (·.id == id)

/-- The physical block device with an id. -/
def physicalBlockDevice? (m : Machine) (id : Int64) : Option BlockDevice :=
  m.physicalBlockDevices.find? (·.id == id)

/-- The block device with an id, sought among all block devices and then among the physical ones. -/
def blockDevice? (m : Machine) (id : Int64) : Option BlockDevice :=
  m.blockDevices.find? (·.id == id) <|> m.physicalBlockDevice? id

/-- A newly read copy in place of a machine, if both have one system id. -/
def refresh (m fresh : Machine) : Except Error Machine :=
  if fresh.systemId = m.systemId then .ok fresh
  else .error (.deserialization (.inside "machine update"
    (.identity "system id" m.systemId.text fresh.systemId.text)))

end Machine

end RegionClient
