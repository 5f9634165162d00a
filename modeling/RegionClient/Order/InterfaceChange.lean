import RegionClient.Error
import RegionClient.Parameters
import RegionClient.Resource.Interface

set_option autoImplicit false

/-! # New and changed interfaces -/

namespace RegionClient

/-! ## New interfaces -/

/-- A physical interface to be added to a device. -/
structure NewInterface where
  name : String
  macAddress : String
  vlanId : Int64
  tags : List String
  mtu : Option Int64
  /-- Whether to accept router advertisements. -/
  acceptRa : Bool
  /-- Whether to configure addresses without a server. -/
  autoconf : Bool

namespace NewInterface

/-- Wants a name and a hardware address. -/
def validate (i : NewInterface) : Except Rejection Unit :=
  if i.name = "" then .error .nameMissing
  else if i.macAddress = "" then .error .macAddressMissing
  else .ok ()

/-- The parameters of a new interface. -/
def parameters (i : NewInterface) : Parameters :=
  .always "name" i.name ++ .always "mac_address" i.macAddress ++
    .always "vlan" (Numeral.ofInt i.vlanId.toInt) ++ .nonempty "tags" (Text.joined "," i.tags) ++
    .optional "mtu" (i.mtu.map fun n => Numeral.ofInt n.toInt) ++
    .flag "accept_ra" i.acceptRa ++ .flag "autoconf" i.autoconf

end NewInterface

/-! ## Changes -/

/-- What to change about an interface. What is empty or missing stays as it is. -/
structure InterfaceChange where
  name : String
  macAddress : String
  vlanId : Option Int64

namespace InterfaceChange

/-- Whether everything stays as it is. -/
def isEmpty (c : InterfaceChange) : Bool :=
  c.name.isEmpty && c.macAddress.isEmpty && c.vlanId.isNone

/-- The parameters of a change. -/
def parameters (c : InterfaceChange) : Parameters :=
  .nonempty "name" c.name ++ .nonempty "mac_address" c.macAddress ++
    .optional "vlan" (c.vlanId.map fun n => Numeral.ofInt n.toInt)

end InterfaceChange

/-! ## Links -/

/-- A link of an interface to a subnet. -/
structure NewLink where
  mode : LinkMode
  subnetId : Int64
  /-- The address to claim, empty if there is none. -/
  ipAddress : String
  /-- Whether the gateway of the subnet becomes the default route. -/
  defaultGateway : Bool

namespace NewLink

/-- A link in a mode without an address of its own. -/
def toSubnet (mode : LinkMode) (subnet : Subnet) : NewLink :=
  ⟨mode, subnet.id, "", false⟩

/-- Wants a known mode; an address goes with static mode only, a gateway with auto
or static mode. -/
def validate (l : NewLink) : Except Rejection Unit :=
  match l.mode with
  | .other name => .error (.linkModeUnknown name)
  | .static => .ok ()
  | mode =>
    if l.ipAddress ≠ "" then .error (.addressOutsideStaticMode mode.text)
    else if l.defaultGateway ∧ mode ≠ .auto then .error (.gatewayOutsideAutoMode mode.text)
    else .ok ()

/-- The parameters of a link; the mode is sent in capital letters. -/
def parameters (l : NewLink) : Parameters :=
  .always "mode" (String.ofList (l.mode.text.toList.map Char.toUpper)) ++
    .always "subnet" (Numeral.ofInt l.subnetId.toInt) ++ .nonempty "ip_address" l.ipAddress ++
    .flag "default_gateway" l.defaultGateway

end NewLink

end RegionClient
