import RegionClient.Layout

set_option autoImplicit false

/-! # The version document -/

namespace RegionClient

/-- What a region controller says of itself. -/
structure VersionInfo where
  /-- The release of the controller, which is not the version of its interface. -/
  version : Version
  subversion : String
  capabilities : SortedSet
  deriving DecidableEq

namespace VersionInfo

/-- The capability of controllers that deploy over the network. -/
def networkDeployment : String :=
  "network-deployment-ubuntu"

/-- The part of a release text before the suffix of a development build. -/
def numericPart (s : String) : String :=
  String.ofList (s.toList.takeWhile fun c => !(c == '~' || c == '+' || c == '-' || c == ' '))

open Layout in
/-- The release in a text. -/
def release (name : String) : Layout Version :=
  refine name (text name) fun s =>
    match Version.parse? (numericPart s) with
    | some v => .ok v
    | none => .error (.rejected (.version (numericPart s)))

open Layout in
/-- The wire form of a version document. -/
def layout : Layout VersionInfo :=
  VersionInfo.mk <$> release "version" <*> textOrEmpty "subversion" <*>
    (SortedSet.ofList <$> texts "capabilities")

/-- The reader of version documents. -/
def reader : Reader VersionInfo :=
  layout.reader "version"

/-- Whether a capability is among those of the controller. -/
def hasCapability (i : VersionInfo) (capability : String) : Bool :=
  i.capabilities.contains capability

end VersionInfo

end RegionClient
