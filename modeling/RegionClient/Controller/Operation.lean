import RegionClient.Controller.Connection
import RegionClient.Controller.Devices
import RegionClient.Controller.Files
import RegionClient.Controller.Listings
import RegionClient.Controller.Machines

set_option autoImplicit false

/-! # Operations

All that a controller can be asked to do. An operation about a machine, an interface, a device or a
file comes with the value that its caller holds.
-/

namespace RegionClient

/-- Something to do on a region. -/
inductive Operation where
  | versionInfo
  | bootImages
  | fabrics
  | spaces
  | staticRoutes
  | zones
  | machines (filter : MachineFilter)
  | allocate (constraints : Constraints)
  | release (order : Release)
  | deploy (m : Machine) (order : Deployment)
  | setOwnerData (m : Machine) (data : SortedMap String)
  | devices (filter : DeviceFilter)
  | createDevice (order : NewDevice)
  | createMachineDevice (m : Machine) (order : NewMachineDevice)
  | deleteDevice (d : Device)
  | addInterface (d : Device) (order : NewInterface)
  | updateInterface (i : Interface) (change : InterfaceChange)
  | linkSubnet (i : Interface) (order : NewLink)
  | unlinkSubnet (i : Interface) (subnet : Subnet)
  | files (beginning : String)
  | getFile (filename : String)
  | addFile (disk : LocalFiles) (upload : Upload)
  | deleteFile (f : StoredFile)
  | contentOf (f : StoredFile)

namespace Operation

/-- Performs an operation; what it gives does not matter here. -/
def perform (c : Controller) : Operation → Dialogue Unit
  | versionInfo => c.fetchVersionInfo.void
  | bootImages => c.bootImages.void
  | fabrics => c.fabrics.void
  | spaces => c.spaces.void
  | staticRoutes => c.staticRoutes.void
  | zones => c.zones.void
  | machines filter => (c.machines filter).void
  | allocate constraints => (c.allocate constraints).void
  | release order => c.release order
  | deploy m order => (c.deploy order).on m
  | setOwnerData m data => (c.setOwnerData data).on m
  | devices filter => (c.devices filter).void
  | createDevice order => (c.createDevice order).void
  | createMachineDevice m order => (c.createMachineDevice m order).void
  | deleteDevice d => c.deleteDevice d
  | addInterface d order => ((c.addInterface order).on d).void
  | updateInterface i change => (c.updateInterface change).on i
  | linkSubnet i order => (c.linkSubnet order).on i
  | unlinkSubnet i subnet => (c.unlinkSubnet subnet).on i
  | files beginning => (c.files beginning).void
  | getFile filename => (c.getFile filename).void
  | addFile disk upload => c.addFile disk upload
  | deleteFile f => c.deleteFile f
  | contentOf f => (c.contentOf f).void

/-- The traffic after several operations, whichever of them fail. -/
def performAll (c : Controller) : List Operation → Traffic → Traffic
  | [], t => t
  | op :: rest, t => performAll c rest (op.perform c t).2

end Operation

end RegionClient
