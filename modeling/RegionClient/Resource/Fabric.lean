import RegionClient.Resource.Vlan

set_option autoImplicit false

/-! # Fabrics -/

namespace RegionClient

/-- Virtual networks that can reach each other. -/
structure Fabric where
  resourceUri : String
  id : Int64
  name : String
  /-- The class of the fabric, empty if it has none. -/
  classType : String
  vlans : List Vlan
  deriving DecidableEq

/-- The network whose frames are not tagged. -/
def Fabric.defaultVlan? (f : Fabric) : Option Vlan :=
  f.vlans.find? (·.vid == 0)

open Layout in
/-- The wire form of a fabric. -/
def Fabric.layout : Layout Fabric :=
  Fabric.mk <$> text "resource_uri" <*> int "id" <*> text "name" <*> textOrEmpty "class_type" <*>
    many Vlan.reader "vlans"

/-- The reader of fabrics. -/
def Fabric.reader : Reader Fabric :=
  Fabric.layout.reader "fabric"

end RegionClient
