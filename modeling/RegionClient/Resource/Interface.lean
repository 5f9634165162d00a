import RegionClient.Resource.Subnet

set_option autoImplicit false

/-! # Network interfaces and their links -/

namespace RegionClient

/-! ## Links -/

/-- How an interface gets its address on a linked subnet. -/
inductive LinkMode where
  /-- The address is handed out on the network. -/
  | dhcp
  /-- The address is fixed. -/
  | static
  /-- The interface is up and has no address. -/
  | linkUp
  /-- An address is chosen when the machine is deployed. -/
  | auto
  /-- A mode with another name, kept as it is written. -/
  | other (name : String)
  deriving DecidableEq

namespace LinkMode

/-- The wire form of a mode. -/
def text : LinkMode → String
  | dhcp => "dhcp"
  | static => "static"
  | linkUp => "link_up"
  | auto => "auto"
  | other name => name

/-- The text with ASCII letters in lower case. -/
def lowered (s : String) : String :=
  String.ofList (s.toList.map Char.toLower)

/-- The mode with a name; the case of ASCII letters does not matter. -/
def ofText (s : String) : LinkMode :=
  let name := lowered s
  if name = "dhcp" then dhcp
  else if name = "static" then static
  else if name = "link_up" then linkUp
  else if name = "auto" then auto
  else other s

end LinkMode

/-- The connection of an interface to a subnet. -/
structure Link where
  id : Int64
  mode : LinkMode
  /-- The subnet, unless the link is not configured. -/
  subnet : Option Subnet
  /-- The address, empty if there is none. -/
  ipAddress : String
  deriving DecidableEq

open Layout in
/-- The wire form of a link. -/
def Link.layout : Layout Link :=
  Link.mk <$> int "id" <*> (LinkMode.ofText <$> text "mode") <*>
    omissible Subnet.reader "subnet" <*> textOrEmpty "ip_address"

/-- The reader of links. -/
def Link.reader : Reader Link :=
  Link.layout.reader "link"

/-! ## Interfaces -/

/-- A network interface of a machine or device. -/
structure Interface where
  resourceUri : String
  id : Int64
  name : String
  kind : String
  enabled : Bool
  tags : List String
  /-- The network the interface is on, unless it is disconnected. -/
  vlan : Option Vlan
  links : List Link
  /-- The hardware address, empty if it is not known. -/
  macAddress : String
  effectiveMtu : Int64
  /-- The names of the interfaces this one is built on. -/
  parents : List String
  /-- The names of the interfaces built on this one. -/
  children : List String
  deriving DecidableEq

namespace Interface

open Layout in
/-- The wire form of an interface. -/
def layout : Layout Interface :=
  Interface.mk <$> text "resource_uri" <*> int "id" <*> text "name" <*> text "type" <*>
    flag "enabled" <*> textsOrEmpty "tags" <*> nullable Vlan.reader "vlan" <*>
    many Link.reader "links" <*> textOrEmpty "mac_address" <*> int "effective_mtu" <*>
    texts "parents" <*> texts "children"

/-- The reader of interfaces. -/
def reader : Reader Interface :=
  layout.reader "interface"

/-- The link to the subnet with an id. -/
def linkForSubnet? (i : Interface) (subnetId : Int64) : Option Link :=
  i.links.find? fun link => (link.subnet.map (·.id == subnetId)).getD false

/-- A newly read copy in place of an interface, if both have one id. -/
def refresh (i fresh : Interface) : Except Error Interface :=
  if fresh.id = i.id then .ok fresh
  else .error (.deserialization (.inside "interface update"
    (.identity "id" (Numeral.ofInt i.id.toInt) (Numeral.ofInt fresh.id.toInt))))

end Interface

end RegionClient
