import RegionClient.Layout

set_option autoImplicit false

/-! # Availability zones -/

namespace RegionClient

/-- An availability zone. -/
structure Zone where
  name : String
  /-- A free description, empty if there is none. -/
  description : String
  resourceUri : String
  deriving DecidableEq

open Layout in
/-- The wire form of a zone. -/
def Zone.layout : Layout Zone :=
  Zone.mk <$> text "name" <*> textOrEmpty "description" <*> textOrEmpty "resource_uri"

/-- The reader of zones. -/
def Zone.reader : Reader Zone :=
  Zone.layout.reader "zone"

end RegionClient
