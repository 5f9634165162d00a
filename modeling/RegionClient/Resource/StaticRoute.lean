import RegionClient.Resource.Subnet

set_option autoImplicit false

/-! # Static routes -/

namespace RegionClient

/-- A route that deployed machines are given. -/
structure StaticRoute where
  resourceUri : String
  id : Int64
  /-- The subnet the route holds for. -/
  source : Subnet
  /-- The subnet the route leads to. -/
  destination : Subnet
  gatewayIp : String
  metric : Int64
  deriving DecidableEq

open Layout in
/-- The wire form of a static route. -/
def StaticRoute.layout : Layout StaticRoute :=
  (fun uri id (ends : Subnet × Subnet) => StaticRoute.mk uri id ends.1 ends.2) <$>
    text "resource_uri" <*> int "id" <*>
    pair Subnet.reader "source" "destination" "source and destination" "subnets" <*>
    text "gateway_ip" <*> int "metric"

/-- The reader of static routes. -/
def StaticRoute.reader : Reader StaticRoute :=
  StaticRoute.layout.reader "static route"

end RegionClient
