import RegionClient.Controller.Basic
import RegionClient.Resource.BootImage
import RegionClient.Resource.Fabric
import RegionClient.Resource.Space
import RegionClient.Resource.StaticRoute
import RegionClient.Resource.Zone

set_option autoImplicit false

/-! # Listings without filters -/

namespace RegionClient.Controller

/-- Lists the boot images. -/
def bootImages (c : Controller) : Dialogue (List BootImage) :=
  c.list BootImage.reader "boot-resources/" []

/-- Lists the fabrics with their virtual networks. -/
def fabrics (c : Controller) : Dialogue (List Fabric) :=
  c.list Fabric.reader "fabrics/" []

/-- Lists the spaces with their subnets. -/
def spaces (c : Controller) : Dialogue (List Space) :=
  c.list Space.reader "spaces/" []

/-- Lists the static routes. -/
def staticRoutes (c : Controller) : Dialogue (List StaticRoute) :=
  c.list StaticRoute.reader "static-routes/" []

/-- Lists the zones. -/
def zones (c : Controller) : Dialogue (List Zone) :=
  c.list Zone.reader "zones/" []

end RegionClient.Controller
