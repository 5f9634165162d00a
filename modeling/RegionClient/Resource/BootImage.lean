import RegionClient.Layout

set_option autoImplicit false

/-! # Boot images -/

namespace RegionClient

/-- An image that machines can be booted from. -/
structure BootImage where
  resourceUri : String
  id : Int64
  name : String
  kind : String
  architecture : String
  subArchitectures : SortedSet
  /-- The flavour of the kernel, empty if it is not told. -/
  kernelFlavor : String
  deriving DecidableEq

/-- The names in a list with commas; blanks around a name and empty places do not count. -/
def BootImage.namesIn (s : String) : SortedSet :=
  .ofList (((Text.split (· == ',') s).map Text.trim).filter fun name => !name.isEmpty)

open Layout in
/-- The wire form of a boot image. -/
def BootImage.layout : Layout BootImage :=
  BootImage.mk <$> text "resource_uri" <*> int "id" <*> text "name" <*> text "type" <*>
    text "architecture" <*> (BootImage.namesIn <$> textOrEmpty "subarches") <*>
    textOrEmpty "kflavor"

/-- The reader of boot images. -/
def BootImage.reader : Reader BootImage :=
  BootImage.layout.reader "boot resource"

end RegionClient
