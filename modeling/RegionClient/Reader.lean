import RegionClient.Schema.Record
import RegionClient.Version.Table

set_option autoImplicit false

/-! # Versioned readers

A reader makes values of one type from documents. It goes through fixed stages: the outer shape of
the document, the choice of the entry for the requested version, and that entry's own check and
reading, which hands the same version to the readers of embedded values. A fault in an item of a
list or in an embedded value is reported inside the position or the member it came from.
-/

namespace RegionClient

/-- Checks the members of an object at a stage of reading that a fault names. -/
def checkFields (schema : Schema) (source : Json) (stage : String) : Except Error Record :=
  (schema.check source).mapError fun fault => .deserialization (.inside stage (.schema fault))

/-- The entries of a reader by the versions from which on they read, each for an object. -/
structure Reader (α : Type) where
  table : VersionTable (Version → Json → Except Error α)

namespace Reader

variable {α : Type}

/-- The name of what is read, as it stands in messages. -/
def typeName (r : Reader α) : String :=
  r.table.typeName

/-- The entry for a requested version. -/
def select (r : Reader α) (version : Version) : Except Error (Version → Json → Except Error α) :=
  (r.table.select version).map Prod.snd

/-- The error of a document with the wrong outer shape. -/
def outerError (r : Reader α) (fault : SchemaFault) : Error :=
  .deserialization (.inside (r.typeName ++ " base schema check failed") (.schema fault))

/-- Reads an object. -/
def read (r : Reader α) (version : Version) (source : Json) : Except Error α := do
  let _ ← source.expectObject.mapError r.outerError
  let entry ← r.select version
  entry version source

/-- Reads the items of a list, the first of them at position `index`; the first failure counts. -/
def readItems (typeName : String) (item : Json → Except Error α) :
    Nat → List Json → Except Error (List α)
  | _, [] => .ok []
  | index, source :: rest => do
    let a ← (item source).mapError (Error.annotate (typeName ++ " " ++ Numeral.ofNat index))
    let as ← readItems typeName item (index + 1) rest
    return a :: as

/-- Reads a list of objects. -/
def readList (r : Reader α) (version : Version) (source : Json) : Except Error (List α) := do
  let sources ← source.expectObjects.mapError r.outerError
  let entry ← r.select version
  readItems r.typeName (entry version) 0 sources

/-- Reads the object in a member of a record. -/
def readField (r : Reader α) (version : Version) (record : Record) (field : String) :
    Except Error α := do
  let source ← (record.value field).mapError Error.schema
  (r.read version source).mapError (Error.annotate field)

/-- Reads the object in a member of a record, unless the member is missing or null. -/
def readOptionalField (r : Reader α) (version : Version) (record : Record) (field : String) :
    Except Error (Option α) := do
  match ← (record.optValue field).mapError Error.schema with
  | none => return none
  | some source => return some (← (r.read version source).mapError (Error.annotate field))

/-- Reads the list of objects in a member of a record; a missing one and null are empty. -/
def readListField (r : Reader α) (version : Version) (record : Record) (field : String) :
    Except Error (List α) := do
  match ← (record.optValue field).mapError Error.schema with
  | none => return []
  | some source => (r.readList version source).mapError (Error.annotate field)

end Reader

end RegionClient
