import RegionClient.Error
import RegionClient.Parameters

set_option autoImplicit false

/-! # Allocation constraints

What a machine must have to be allocated. Interface and storage constraints carry labels, by which
the answer says what satisfied them. They are checked before anything is sent, in the order
interfaces, excluded spaces, storage, and the first offence counts.
-/

namespace RegionClient

/-! ## Interfaces -/

/-- An interface in a space. -/
structure InterfaceConstraint where
  label : String
  space : String
  deriving DecidableEq

namespace InterfaceConstraint

/-- Wants a label and a space. -/
def validate (c : InterfaceConstraint) : Except Rejection Unit :=
  if c.label = "" then .error .interfaceLabelMissing
  else if c.space = "" then .error (.interfaceSpaceMissing c.label)
  else .ok ()

/-- Wants valid constraints with different labels that are not among those `seen`. -/
def validateAll (seen : List String) : List InterfaceConstraint → Except Rejection Unit
  | [] => .ok ()
  | c :: rest => do
    c.validate
    if c.label ∈ seen then throw (.interfaceLabelRepeated c.label)
    validateAll (c.label :: seen) rest

/-- The written form of a constraint. -/
def text (c : InterfaceConstraint) : String :=
  c.label ++ ":space=" ++ c.space

end InterfaceConstraint

/-! ## Storage -/

/-- A block device of some size with some tags. The label may be empty. -/
structure StorageConstraint where
  label : String
  /-- The least size in GB. -/
  size : UInt64
  tags : List String
  deriving DecidableEq

namespace StorageConstraint

/-- Wants a size and no empty tag. -/
def validate (c : StorageConstraint) : Except Rejection Unit :=
  if c.size = 0 then .error (.storageSizeZero c.label)
  else if "" ∈ c.tags then .error (.storageTagEmpty c.label)
  else .ok ()

/-- Wants valid constraints whose labels, unless empty, are different and not among those `seen`. -/
def validateAll (seen : List String) : List StorageConstraint → Except Rejection Unit
  | [] => .ok ()
  | c :: rest => do
    c.validate
    if c.label ≠ "" ∧ c.label ∈ seen then throw (.storageLabelRepeated c.label)
    validateAll (c.label :: seen) rest

/-- The written form of a constraint: the label if there is one, the size, the tags if there are
any. -/
def text (c : StorageConstraint) : String :=
  (if c.label = "" then "" else c.label ++ ":") ++ Numeral.ofNat c.size.toNat ++
    (if c.tags = [] then "" else "(" ++ Text.joined "," c.tags ++ ")")

end StorageConstraint

/-! ## All constraints -/

/-- What a machine must have to be allocated. -/
structure Constraints where
  hostname : String
  systemId : String
  architecture : String
  minCpuCount : Option UInt32
  /-- The least memory in MiB. -/
  minMemory : Option UInt64
  tags : List String
  excludedTags : List String
  zone : String
  excludedZones : List String
  interfaces : List InterfaceConstraint
  excludedSpaces : List String
  storage : List StorageConstraint
  /-- Who allocates, for the record. -/
  agentName : String
  comment : String
  /-- Whether only to ask which machine would be allocated. -/
  dryRun : Bool

namespace Constraints

/-- Checks the constraints as far as that is possible without the region. -/
def validate (c : Constraints) : Except Rejection Unit := do
  InterfaceConstraint.validateAll [] c.interfaces
  if "" ∈ c.excludedSpaces then throw .excludedSpaceEmpty
  StorageConstraint.validateAll [] c.storage

/-- The parameters of an allocation. -/
def parameters (c : Constraints) : Parameters :=
  .nonempty "name" c.hostname ++ .nonempty "system_id" c.systemId ++
    .nonempty "arch" c.architecture ++
    .optional "cpu_count" (c.minCpuCount.map fun n => Numeral.ofNat n.toNat) ++
    .optional "mem" (c.minMemory.map fun n => Numeral.ofNat n.toNat) ++
    .nonempty "tags" (Text.joined "," c.tags) ++
    .nonempty "not_tags" (Text.joined "," c.excludedTags) ++
    .nonempty "zone" c.zone ++ .each "not_in_zone" c.excludedZones ++
    .nonempty "interfaces" (Text.joined ";" (c.interfaces.map InterfaceConstraint.text)) ++
    .each "not_networks" (c.excludedSpaces.map ("space:" ++ ·)) ++
    .nonempty "storage" (Text.joined "," (c.storage.map StorageConstraint.text)) ++
    .nonempty "agent_name" c.agentName ++ .nonempty "comment" c.comment ++
    .flag "dry_run" c.dryRun

end Constraints

end RegionClient
