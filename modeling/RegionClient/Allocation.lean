import RegionClient.Resource.Machine

set_option autoImplicit false

/-! # Allocated machines

An allocation reports which interfaces and block devices satisfy each labelled constraint, by id.
The ids are turned into positions on the allocated machine, once and for all, and what is at these
positions is looked up when it is asked for. An id that the machine does not have is a fault:
interfaces come before storage, labels ascend, and the first unknown id counts.
-/

namespace RegionClient

/-! ## Matches -/

/-- What satisfies each labelled constraint. A label may be there with nothing under it. -/
structure Matches where
  interfaces : SortedMap (List Interface)
  storage : SortedMap (List BlockDevice)
  deriving DecidableEq

namespace Matches

/-- No labels. -/
def empty : Matches :=
  ⟨.empty, .empty⟩

/-- What matches an interface constraint. -/
def interfacesFor (found : Matches) (label : String) : List Interface :=
  (found.interfaces.get? label).getD []

/-- What matches a storage constraint. -/
def storageFor (found : Matches) (label : String) : List BlockDevice :=
  (found.storage.get? label).getD []

/-- Whether there is no label. -/
def isEmpty (found : Matches) : Bool :=
  found.interfaces.isEmpty && found.storage.isEmpty

end Matches

/-! ## Places on a machine -/

/-- Where a machine has a block device: among all of them, or among the physical ones. -/
inductive StorageSlot where
  | block (index : Nat)
  | physical (index : Nat)
  deriving DecidableEq

namespace Machine

/-- The position of the first interface with an id. -/
def interfaceIndex? (m : Machine) (id : Int64) : Option Nat :=
  m.interfaces.findIdx? (·.id == id)

/-- Where the first block device with an id is, sought among all block devices and then among the
physical ones. -/
def storageSlot? (m : Machine) (id : Int64) : Option StorageSlot :=
  (m.blockDevices.findIdx? (·.id == id)).map .block <|>
    (m.physicalBlockDevices.findIdx? (·.id == id)).map .physical

/-- The block device in a place. -/
def inSlot? (m : Machine) : StorageSlot → Option BlockDevice
  | .block index => m.blockDevices[index]?
  | .physical index => m.physicalBlockDevices[index]?

end Machine

/-! ## Positions -/

/-- Where a machine has what satisfies each labelled constraint. -/
structure Positions where
  interfaces : SortedMap (List Nat)
  storage : SortedMap (List StorageSlot)
  deriving DecidableEq

namespace Positions

/-- No labels. -/
def empty : Positions :=
  ⟨.empty, .empty⟩

/-- Lists of ids under labels; a list may be null. -/
def labelsChecker : Checker :=
  .stringMap (.nullable (.list .forcedInt))

/-- The members of a match document. -/
def schema : Schema :=
  [⟨"interfaces", labelsChecker, .optional⟩, ⟨"storage", labelsChecker, .optional⟩]

/-- The ids in a checked list; null has none. -/
def idsIn (ids : Json) : List Int64 :=
  (ids.list?.getD []).filterMap Json.int64?

/-- The ids under each label, labels ascending. -/
def labelledIds (record : Record) (field : String) :
    Except SchemaFault (List (String × List Int64)) := do
  let found ← record.optValue field
  return ((found.bind Json.object?).getD []).map fun e => (e.1, idsIn e.2)

/-- What each id of a list finds, or the first id that finds nothing. -/
def findEach {α : Type} (find : Int64 → Option α) : List Int64 → Except Int64 (List α)
  | [] => .ok []
  | id :: rest => do
    match find id with
    | none => throw id
    | some a =>
      let as ← findEach find rest
      return a :: as

/-- What the ids under each label find, or the first label with an id that finds nothing, and that
id. -/
def findLabelled {α : Type} (find : Int64 → Option α) (found : SortedMap (List α)) :
    List (String × List Int64) → Except (String × Int64) (SortedMap (List α))
  | [] => .ok found
  | (label, ids) :: rest => do
    let as ← (findEach find ids).mapError fun id => (label, id)
    findLabelled find (found.insert label as) rest

/-- The error of an id that is not on the machine. -/
def unknownId (constraint what : String) (culprit : String × Int64) : Error :=
  .deserialization (.inside ("constraint match " ++ constraint ++ " " ++ Text.quoted culprit.1)
    (.unknownId what culprit.2))

/-- Finds where a machine has what a match document names. -/
def locate (machine : Machine) (source : Json) : Except Error Positions := do
  let record ← checkFields schema source "constraint match schema check failed"
  let interfaceIds ← (labelledIds record "interfaces").mapError Error.schema
  let interfaces ← (findLabelled machine.interfaceIndex? .empty interfaceIds).mapError
    (unknownId "interface" "interface")
  let storageIds ← (labelledIds record "storage").mapError Error.schema
  let storage ← (findLabelled machine.storageSlot? .empty storageIds).mapError
    (unknownId "storage" "block device")
  return ⟨interfaces, storage⟩

/-- What a machine has at these positions; what lies beyond its lists is left out. -/
def view (positions : Positions) (machine : Machine) : Matches where
  interfaces := positions.interfaces.map fun indices => indices.filterMap (machine.interfaces[·]?)
  storage := positions.storage.map fun slots => slots.filterMap machine.inSlot?

end Positions

/-- Finds on a machine what a match document names. -/
def Matches.resolve (machine : Machine) (source : Json) : Except Error Matches :=
  (Positions.locate machine source).map (·.view machine)

/-! ## Allocation -/

/-- An allocated machine and where on it is what satisfied the constraints. -/
structure Allocation where
  machine : Machine
  positions : Positions
  deriving DecidableEq

namespace Allocation

/-- What satisfied the constraints. -/
def found (a : Allocation) : Matches :=
  a.positions.view a.machine

/-- The member of an allocated machine that holds the match document. -/
def matchesField : String :=
  "constraints_by_type"

/-- Reads an allocated machine. A match document that is missing or null names nothing. -/
def read (version : Version) (source : Json) : Except Error Allocation := do
  let machine ← Machine.reader.read version source
  match source.get? matchesField with
  | none | some .null => return ⟨machine, .empty⟩
  | some document =>
    let positions ← (Positions.locate machine document).mapError (Error.annotate matchesField)
    return ⟨machine, positions⟩

end Allocation

end RegionClient
