import RegionClient.Resource.Vlan

set_option autoImplicit false

/-! # Subnets -/

namespace RegionClient

/-- A network of addresses on a virtual network. -/
structure Subnet where
  resourceUri : String
  id : Int64
  name : String
  /-- The name of the space the subnet belongs to. -/
  space : String
  /-- The default gateway, empty if there is none. -/
  gateway : String
  cidr : String
  vlan : Vlan
  dnsServers : List String
  deriving DecidableEq

open Layout in
/-- The wire form of a subnet. -/
def Subnet.layout : Layout Subnet :=
  Subnet.mk <$> text "resource_uri" <*> int "id" <*> text "name" <*> text "space" <*>
    textOrEmpty "gateway_ip" <*> text "cidr" <*> one Vlan.reader "vlan" <*>
    textsOrEmpty "dns_servers"

/-- The reader of subnets. -/
def Subnet.reader : Reader Subnet :=
  Subnet.layout.reader "subnet"

end RegionClient
