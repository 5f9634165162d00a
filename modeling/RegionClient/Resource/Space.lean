import RegionClient.Resource.Subnet

set_option autoImplicit false

/-! # Spaces -/

namespace RegionClient

/-- Subnets that can reach each other, under a name. -/
structure Space where
  resourceUri : String
  id : Int64
  name : String
  subnets : List Subnet
  deriving DecidableEq

open Layout in
/-- The wire form of a space. -/
def Space.layout : Layout Space :=
  Space.mk <$> text "resource_uri" <*> int "id" <*> text "name" <*> many Subnet.reader "subnets"

/-- The reader of spaces. -/
def Space.reader : Reader Space :=
  Space.layout.reader "space"

end RegionClient
