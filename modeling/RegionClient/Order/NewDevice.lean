import RegionClient.Error
import RegionClient.Parameters
import RegionClient.Resource.Subnet

set_option autoImplicit false

/-! # New devices -/

namespace RegionClient

/-! ## Devices by themselves -/

/-- A device to be made known. The region chooses a hostname if none is given. -/
structure NewDevice where
  hostname : String
  macAddresses : List String
  domain : String
  /-- The system id of what the device belongs to. -/
  parent : String

namespace NewDevice

/-- Wants a hardware address that is not empty. -/
def validate (d : NewDevice) : Except Rejection Unit :=
  if d.macAddresses.all String.isEmpty then .error .macAddressesMissing else .ok ()

/-- The parameters of a new device. -/
def parameters (d : NewDevice) : Parameters :=
  .nonempty "hostname" d.hostname ++ .nonempty "domain" d.domain ++
    .each "mac_addresses" d.macAddresses ++ .nonempty "parent" d.parent

end NewDevice

/-! ## Devices on a machine -/

/-- A device that belongs to a machine, with its one interface, on a subnet or on
a virtual network. -/
structure NewMachineDevice where
  hostname : String
  interfaceName : String
  macAddress : String
  /-- The subnet on which the interface gets a fixed address. -/
  subnet : Option Subnet
  /-- The virtual network, by default that of the subnet. -/
  vlanId : Option Int64

namespace NewMachineDevice

/-- The virtual network on which the interface ends up. -/
def effectiveVlanId? (d : NewMachineDevice) : Option Int64 :=
  d.vlanId <|> d.subnet.map fun s => s.vlan.id

/-- Wants the virtual network of the subnet, if both are given, and one of them. -/
def validateNetwork (d : NewMachineDevice) : Except Rejection Unit :=
  match d.subnet, d.vlanId with
  | none, none => .error .subnetAndVlanMissing
  | some s, some requested =>
    if s.vlan.id = requested then .ok () else .error (.vlanDisagrees s.cidr s.vlan.id requested)
  | _, _ => .ok ()

/-- Wants an interface name, a hardware address, and a network. -/
def validate (d : NewMachineDevice) : Except Rejection Unit :=
  if d.interfaceName = "" then .error .interfaceNameMissing
  else if d.macAddress = "" then .error .macAddressMissing
  else d.validateNetwork

/-- A network that passes its check is there, and is that of the subnet if there is one. -/
theorem validateNetwork_eq_ok {d : NewMachineDevice} (h : d.validateNetwork = .ok ()) :
    ∃ vlan, d.effectiveVlanId? = some vlan ∧ ∀ s, d.subnet = some s → s.vlan.id = vlan := by
  unfold validateNetwork at h
  unfold effectiveVlanId?
  cases hsubnet : d.subnet with
  | none =>
      cases hvlan : d.vlanId with
      | none => simp [hsubnet, hvlan] at h
      | some vlan => exact ⟨vlan, rfl, nofun⟩
  | some s =>
      cases hvlan : d.vlanId with
      | none => exact ⟨s.vlan.id, rfl, fun s' hs' => by rw [Option.some.inj hs']⟩
      | some vlan =>
          have hsame : s.vlan.id = vlan := by
            refine Decidable.byContradiction fun hne => ?_
            simp [hsubnet, hvlan, hne] at h
          exact ⟨vlan, rfl, fun s' hs' => by rw [← Option.some.inj hs', hsame]⟩

/-- An order that passes its check names the interface and its hardware address, and has
a network. -/
theorem validate_eq_ok {d : NewMachineDevice} (h : d.validate = .ok ()) :
    d.interfaceName ≠ "" ∧ d.macAddress ≠ "" ∧ d.validateNetwork = .ok () := by
  unfold validate at h
  split at h
  · cases h
  · rename_i hname
    split at h
    · cases h
    · rename_i hmac
      exact ⟨hname, hmac, h⟩

end NewMachineDevice

end RegionClient
