import RegionClient.Controller.Basic
import RegionClient.Order.InterfaceChange
import RegionClient.Resource.Device

set_option autoImplicit false

/-! # Interfaces of machines and devices -/

namespace RegionClient.Controller

/-- Sends a request about an interface, which becomes what the response says. -/
def sendForInterface (c : Controller) (call : Call) : InPlace Interface Unit := do
  let fresh ← c.sendAndRead call Interface.reader.read
  InPlace.replace fun i => i.refresh fresh

/-- Lets an operation act on an interface. -/
def actOnInterface (c : Controller) (operation : String) (parameters : Parameters) :
    InPlace Interface Unit := do
  let i ← InPlace.value
  c.sendForInterface (.post i.resourceUri (.operation operation) parameters)

/-- Changes an interface. To change nothing, nothing is sent. -/
def updateInterface (c : Controller) (change : InterfaceChange) : InPlace Interface Unit := do
  if change.isEmpty then return ()
  let i ← InPlace.value
  c.sendForInterface ⟨.put, i.resourceUri, [], .form change.parameters⟩

/-- Links an interface to a subnet. -/
def linkSubnet (c : Controller) (link : NewLink) : InPlace Interface Unit := do
  Dialogue.check link.validate
  c.actOnInterface "link_subnet" link.parameters

/-- Removes the link of an interface to a subnet. -/
def unlinkSubnet (c : Controller) (subnet : Subnet) : InPlace Interface Unit := do
  let i ← InPlace.value
  match i.linkForSubnet? subnet.id with
  | none => Dialogue.fail (.notValid (.interfaceNotLinked i.name subnet.cidr))
  | some link =>
    c.actOnInterface "unlink_subnet" (.always "id" (Numeral.ofInt link.id.toInt))

/-- Makes a physical interface on a device, and puts it after those that the device has. -/
def addInterface (c : Controller) (order : NewInterface) : InPlace Device Interface := do
  Dialogue.check order.validate
  let d ← InPlace.value
  let path := d.resourceUri ++ "interfaces/"
  let i ← c.sendAndRead (.post path (.operation "create_physical") order.parameters)
    Interface.reader.read
  InPlace.change fun d => { d with interfaces := d.interfaces ++ [i] }
  return i

end RegionClient.Controller
