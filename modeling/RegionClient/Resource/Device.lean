import RegionClient.Resource.Interface
import RegionClient.Resource.Zone

set_option autoImplicit false

/-! # Devices -/

namespace RegionClient

/-- Something that is known to a region and never deployed, such as a container or an appliance. -/
structure Device where
  resourceUri : String
  systemId : SystemId
  hostname : String
  fqdn : String
  /-- The system id of what the device belongs to, empty if it stands alone. -/
  parent : String
  owner : String
  ipAddresses : List String
  interfaces : List Interface
  zone : Zone
  deriving DecidableEq

namespace Device

open Layout in
/-- The wire form of a device. -/
def layout : Layout Device :=
  Device.mk <$> text "resource_uri" <*> Layout.systemId "system_id" <*> text "hostname" <*>
    text "fqdn" <*> textOrEmpty "parent" <*> textOrEmpty "owner" <*> texts "ip_addresses" <*>
    many Interface.reader "interface_set" <*> one Zone.reader "zone"

/-- The reader of devices. -/
def reader : Reader Device :=
  layout.reader "device"

/-- The interface with an id. -/
def interface? (d : Device) (id : Int64) : Option Interface :=
  d.interfaces.find? (·.id == id)

/-- A newly read copy in place of a device, if both have one system id. -/
def refresh (d fresh : Device) : Except Error Device :=
  if fresh.systemId = d.systemId then .ok fresh
  else .error (.deserialization (.inside "device update"
    (.identity "system id" d.systemId.text fresh.systemId.text)))

end Device

end RegionClient
