import RegionClient.Schema.Checker

set_option autoImplicit false

/-! # Records

The checked members of an object. A record hands out only what its schema declares, and each getter
says which strict form it wants.
-/

namespace RegionClient

/-- Checked members under their names. -/
structure Record where
  declared : List String
  values : SortedMap Json
  deriving Inhabited

namespace Schema

/-- Checks the declared members of an object. -/
def checkEntries (schema : Schema) (entries : List (String × Json)) :
    Except SchemaFault Record :=
  (Checker.checkMembers schema [] entries .empty).map fun values =>
    ⟨schema.map Member.name, values⟩

/-- Checks a value that must be an object with the declared members. -/
def check (schema : Schema) (value : Json) : Except SchemaFault Record :=
  value.expectObject.bind schema.checkEntries

end Schema

namespace Record

/-- Whether the record has a value under a name, standing in values included. -/
def contains (r : Record) (name : String) : Bool :=
  (r.values.get? name).isSome

/-- The value of a declared member, if it has one. -/
def find (r : Record) (name : String) : Except SchemaFault (Option Json) :=
  if name ∈ r.declared then .ok (r.values.get? name)
  else .error ⟨[.member name], .undeclared⟩

/-- The value of a declared member that must have one. -/
def require (r : Record) (name expected : String) : Except SchemaFault Json := do
  match ← r.find name with
  | some value => return value
  | none => throw (.missing [.member name] expected)

/-- A required value in the form that a view gives it. -/
def view {α : Type} (r : Record) (name expected : String) (f : Json → Option α) :
    Except SchemaFault α := do
  let value ← r.require name expected
  match f value with
  | some a => return a
  | none => throw (.mismatch [.member name] expected value)

/-- A required text. -/
def string (r : Record) (name : String) : Except SchemaFault String :=
  r.view name "string" Json.string?

/-- A required signed integer. -/
def int (r : Record) (name : String) : Except SchemaFault Int64 :=
  r.view name "int" Json.int64?

/-- A required unsigned integer. -/
def uint (r : Record) (name : String) : Except SchemaFault UInt64 :=
  r.view name "uint" Json.uint64?

/-- A required truth value. -/
def bool (r : Record) (name : String) : Except SchemaFault Bool :=
  r.view name "bool" Json.bool?

/-- A required value of any shape. -/
def value (r : Record) (name : String) : Except SchemaFault Json :=
  r.require name "any value"

/-- A value of any shape, unless it is missing or null. -/
def optValue (r : Record) (name : String) : Except SchemaFault (Option Json) := do
  let found ← r.find name
  return found.filter fun value => !value.isNull

/-- A text, unless it is missing or null. -/
def optString (r : Record) (name : String) : Except SchemaFault (Option String) := do
  match ← r.optValue name with
  | none => return none
  | some (.string s) => return some s
  | some other => throw (.mismatch [.member name] "string" other)

/-- The texts of a list, which begins at position `index`. -/
def textItems (name : String) : Nat → List Json → Except SchemaFault (List String)
  | _, [] => .ok []
  | index, .string s :: rest => do
    let ss ← textItems name (index + 1) rest
    return s :: ss
  | index, other :: _ => .error (.mismatch [.member name, .item index] "string" other)

/-- A list of texts; a missing one and null are empty. -/
def strings (r : Record) (name : String) : Except SchemaFault (List String) := do
  match ← r.optValue name with
  | none => return []
  | some (.list items) => textItems name 0 items
  | some other => throw (.mismatch [.member name] "list" other)

/-- The texts of an object, added to a map. -/
def textEntries (name : String) (taken : SortedMap String) :
    List (String × Json) → Except SchemaFault (SortedMap String)
  | [] => .ok taken
  | (key, .string s) :: rest => textEntries name (taken.insert key s) rest
  | (key, other) :: _ => .error (.mismatch [.member name, .member key] "string" other)

/-- A map of texts; a missing one and null are empty. -/
def stringMap (r : Record) (name : String) : Except SchemaFault (SortedMap String) := do
  match ← r.optValue name with
  | none => return .empty
  | some (.object entries) => textEntries name .empty entries
  | some other => throw (.mismatch [.member name] "map" other)

end Record

end RegionClient
