import RegionClient.Parameters
import RegionClient.Resource.Machine

set_option autoImplicit false

/-! # Filters of listings

Which machines or devices to list. An empty text and an empty list do not filter.
-/

namespace RegionClient

/-- Which devices to list. -/
structure DeviceFilter where
  hostnames : List String
  macAddresses : List String
  systemIds : List String
  domain : String
  zone : String
  agentName : String

/-- The parameters of a device filter. -/
def DeviceFilter.parameters (f : DeviceFilter) : Parameters :=
  .each "hostname" f.hostnames ++ .each "mac_address" f.macAddresses ++ .each "id" f.systemIds ++
    .nonempty "domain" f.domain ++ .nonempty "zone" f.zone ++ .nonempty "agent_name" f.agentName

/-- Which machines to list. The region filters by what devices are filtered by, too. It cannot
filter by owner data, so the client does. -/
structure MachineFilter extends DeviceFilter where
  /-- What the owner data of a machine must hold. -/
  ownerData : SortedMap String

/-- Whether the owner data of a machine holds every wanted entry. -/
def MachineFilter.matchesOwnerData (f : MachineFilter) (m : Machine) : Bool :=
  f.ownerData.entries.all fun e => m.ownerData.get? e.1 == some e.2

end RegionClient
