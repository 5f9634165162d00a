import RegionClient.Allocation
import RegionClient.Controller.Basic
import RegionClient.Order.Constraints
import RegionClient.Order.Deployment
import RegionClient.Order.Filter

set_option autoImplicit false

/-! # Machines of a region

What changes a machine changes the value that the caller holds, to what the response says.
-/

namespace RegionClient.Controller

/-- Where the region keeps machines. -/
def machinesPath (c : Controller) : String :=
  c.apiPath "machines/"

/-- Lists the machines that pass a filter. -/
def machines (c : Controller) (filter : MachineFilter) : Dialogue (List Machine) := do
  let all ← c.list Machine.reader "machines/" filter.parameters
  return all.filter filter.matchesOwnerData

/-- Allocates a machine under constraints. -/
def allocate (c : Controller) (constraints : Constraints) : Dialogue Allocation := do
  Dialogue.check constraints.validate
  let call := Call.post c.machinesPath (.operation "allocate") constraints.parameters
  let value ← (c.sendForDocument call).mapError fun e =>
    match e with
    | .cannotComplete body => .noMatch body
    | other => other
  .ofExcept (Allocation.read c.version value)

/-- Gives machines back. To give back none, nothing is sent. -/
def release (c : Controller) (order : Release) : Dialogue Unit := do
  if order.isEmpty then return ()
  let _ ← c.sendForDocument (.post c.machinesPath (.operation "release") order.parameters)
  return ()

/-- Lets an operation act on a machine, which becomes what the response says. -/
def actOnMachine (c : Controller) (operation : String) (parameters : Parameters) :
    InPlace Machine Unit := do
  let m ← InPlace.value
  let fresh ← c.sendAndRead (.post m.resourceUri (.operation operation) parameters)
    Machine.reader.read
  InPlace.replace fun m => m.refresh fresh

/-- Deploys a machine. -/
def deploy (c : Controller) (order : Deployment) : InPlace Machine Unit :=
  c.actOnMachine "deploy" order.parameters

/-- Replaces entries of the owner data of a machine; an empty value removes an entry. -/
def setOwnerData (c : Controller) (data : SortedMap String) : InPlace Machine Unit :=
  c.actOnMachine "set_owner_data" data.entries

end RegionClient.Controller
