import RegionClient.Controller.Interfaces
import RegionClient.Order.Filter
import RegionClient.Order.NewDevice

set_option autoImplicit false

/-! # Devices of a region -/

namespace RegionClient.Controller

/-- Lists the devices that pass a filter. -/
def devices (c : Controller) (filter : DeviceFilter) : Dialogue (List Device) :=
  c.list Device.reader "devices/" filter.parameters

/-- Makes a device known. -/
def createDevice (c : Controller) (order : NewDevice) : Dialogue Device := do
  Dialogue.check order.validate
  c.sendAndRead (.post (c.apiPath "devices/") [] order.parameters) Device.reader.read

/-- Deletes a device. -/
def deleteDevice (c : Controller) (d : Device) : Dialogue Unit :=
  c.delete d.resourceUri

/-! ## Devices on a machine -/

/-- Gives an interface the name and the place on the network that a new device wants for it. -/
def configureInterface (c : Controller) (order : NewMachineDevice) : InPlace Interface Unit := do
  c.updateInterface ⟨order.interfaceName, "", order.effectiveVlanId?⟩
  match order.subnet with
  | none => return ()
  | some subnet => c.linkSubnet (.toSubnet .static subnet)

/-- Configures the one interface of a new device. -/
def configureDevice (c : Controller) (order : NewMachineDevice) : InPlace Device Unit := do
  let d ← InPlace.value
  match d.interfaces with
  | [i] => (c.configureInterface order).onPart i fun i d => { d with interfaces := [i] }
  | found =>
    Dialogue.fail (.cannotComplete ("expected new device to have one interface, found " ++
      Numeral.ofNat found.length))

/-- Makes a device that belongs to a machine, and configures its interface. If that fails, the
device is deleted again, and whether that succeeds does not matter. -/
def createMachineDevice (c : Controller) (m : Machine) (order : NewMachineDevice) :
    Dialogue Device := do
  Dialogue.check order.validate
  let d ← c.createDevice ⟨order.hostname, [order.macAddress], "", m.systemId.text⟩
  (c.configureDevice order).onNew d c.deleteDevice

end RegionClient.Controller
