import RegionClient.Reader

set_option autoImplicit false

/-! # Layouts

A layout says which members an object has on the wire and what value they make. Each building block
declares its members and reads them back from the checked record, so that declaration and reading
cannot drift apart; blocks are put side by side, and members are checked in the order of the blocks.

All members are checked before any of them is read. What can still fail then is the reading of an
embedded object, or of a text with a form of its own.
-/

namespace RegionClient

/-- What a layout is read for: the name in messages, and the version for embedded values. -/
structure Scope where
  typeName : String
  version : Version

/-- The stage of reading at which members are checked. -/
def Scope.stage (scope : Scope) : String :=
  scope.typeName ++ " 2.0 schema check failed"

/-- Members and the value they make. -/
structure Layout (α : Type) where
  schema : Schema
  read : Scope → Record → Except Error α

namespace Layout

variable {α β : Type}

/-! ## Composition -/

/-- No members, and a value that needs none. -/
protected def pure (a : α) : Layout α :=
  ⟨[], fun _ _ => .ok a⟩

/-- The members of both, and the function of the first at the value of the second. -/
protected def seq (f : Layout (α → β)) (x : Layout α) : Layout β :=
  ⟨f.schema ++ x.schema, fun scope record => do
    let g ← f.read scope record
    let a ← x.read scope record
    return g a⟩

/-- The same members, and a function of their value. -/
protected def map (g : α → β) (x : Layout α) : Layout β :=
  ⟨x.schema, fun scope record => (x.read scope record).map g⟩

instance : Applicative Layout where
  pure := Layout.pure
  map := Layout.map
  seq f x := Layout.seq f (x ())

/-- The same members, and a function of their value that may fail inside the member
it comes from. -/
def refine (field : String) (x : Layout α) (f : α → Except ReadFault β) : Layout β :=
  ⟨x.schema, fun scope record => do
    let a ← x.read scope record
    (f a).mapError fun fault => .deserialization (.inside scope.stage (.inside field fault))⟩

/-! ## Members -/

/-- One member, read by a getter of the record. -/
def member (name : String) (checker : Checker) (presence : Presence)
    (get : Record → String → Except SchemaFault α) : Layout α :=
  ⟨[⟨name, checker, presence⟩], fun _ record => (get record name).mapError Error.schema⟩

/-- A text. -/
def text (name : String) : Layout String :=
  member name .string .required Record.string

/-- A text that is empty if it is missing or null. -/
def textOrEmpty (name : String) : Layout String :=
  member name (.nullable .string) (.default (.string "")) Record.string

/-- A text that may be missing or null. -/
def optionalText (name : String) : Layout (Option String) :=
  member name (.nullable .string) .optional Record.optString

/-- A signed integer. -/
def int (name : String) : Layout Int64 :=
  member name .forcedInt .required Record.int

/-- An unsigned integer. -/
def size (name : String) : Layout UInt64 :=
  member name .forcedUint .required Record.uint

/-- A truth value. -/
def flag (name : String) : Layout Bool :=
  member name .bool .required Record.bool

/-- A list of texts. -/
def texts (name : String) : Layout (List String) :=
  member name (.list .string) .required Record.strings

/-- A list of texts that is empty if it is missing or null. -/
def textsOrEmpty (name : String) : Layout (List String) :=
  member name (.nullable (.list .string)) (.default (.list [])) Record.strings

/-- A map of texts that is empty if it is missing or null. -/
def textMapOrEmpty (name : String) : Layout (SortedMap String) :=
  member name (.stringMap .string) (.default (.object [])) Record.stringMap

/-- The system id in a text. -/
def systemId (name : String) : Layout SystemId :=
  refine name (text name) fun s =>
    match SystemId.parse? s with
    | some id => .ok id
    | none => .error (.rejected (.systemId s))

/-! ## Embedded objects -/

/-- An embedded object. -/
def one (reader : Reader α) (name : String) : Layout α :=
  ⟨[⟨name, .object, .required⟩], fun scope record => reader.readField scope.version record name⟩

/-- An embedded object that may be null but not missing. -/
def nullable (reader : Reader α) (name : String) : Layout (Option α) :=
  ⟨[⟨name, .nullable .object, .required⟩], fun scope record =>
    reader.readOptionalField scope.version record name⟩

/-- An embedded object that may be null or missing. -/
def optional (reader : Reader α) (name : String) : Layout (Option α) :=
  ⟨[⟨name, .nullable .object, .optional⟩], fun scope record =>
    reader.readOptionalField scope.version record name⟩

/-- An embedded object that may be missing but not null. -/
def omissible (reader : Reader α) (name : String) : Layout (Option α) :=
  ⟨[⟨name, .object, .optional⟩], fun scope record =>
    reader.readOptionalField scope.version record name⟩

/-- A list of embedded objects. -/
def many (reader : Reader α) (name : String) : Layout (List α) :=
  ⟨[⟨name, .list .object, .required⟩], fun scope record =>
    reader.readListField scope.version record name⟩

/-- Two embedded objects, read as one batch. -/
def pair (reader : Reader α) (first second context plural : String) : Layout (α × α) :=
  ⟨[⟨first, .object, .required⟩, ⟨second, .object, .required⟩], fun scope record => do
    let a ← (record.value first).mapError Error.schema
    let b ← (record.value second).mapError Error.schema
    match ← (reader.readList scope.version (.list [a, b])).mapError (Error.annotate context) with
    | [x, y] => return (x, y)
    | batch =>
      throw (.deserialization (.inside scope.typeName (.batch plural 2 batch.length)))⟩

/-- The reader of a layout, from version 2.0 on. -/
def reader (typeName : String) (layout : Layout α) : Reader α :=
  ⟨⟨typeName, [(Version.v2_0, fun version source => do
    let scope : Scope := ⟨typeName, version⟩
    let record ← checkFields layout.schema source scope.stage
    layout.read scope record)]⟩⟩

end Layout

end RegionClient
