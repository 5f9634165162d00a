import RegionClient.Layout

set_option autoImplicit false

/-! # Virtual networks -/

namespace RegionClient

/-- A virtual network on a fabric, which it names but does not hold. -/
structure Vlan where
  id : Int64
  resourceUri : String
  /-- The name, empty for the network every fabric begins with. -/
  name : String
  fabric : String
  /-- The number on the wire, zero if frames are not tagged. -/
  vid : Int64
  mtu : Int64
  /-- Whether addresses are handed out on this network. -/
  dhcp : Bool
  primaryRack : String
  secondaryRack : String
  deriving DecidableEq

open Layout in
/-- The wire form of a virtual network. -/
def Vlan.layout : Layout Vlan :=
  Vlan.mk <$> int "id" <*> text "resource_uri" <*> textOrEmpty "name" <*> text "fabric" <*>
    int "vid" <*> int "mtu" <*> flag "dhcp_on" <*> textOrEmpty "primary_rack" <*>
    textOrEmpty "secondary_rack"

/-- The reader of virtual networks. -/
def Vlan.reader : Reader Vlan :=
  Vlan.layout.reader "vlan"

end RegionClient
