import RegionClient.Json.Render
import RegionClient.Text.Quoted

set_option autoImplicit false

/-! # Schema faults

What is wrong with a checked value, and where. The place is kept as the steps that lead to it and is
written only in the wording: members after points, list positions in brackets, `links[0].subnet`.
-/

namespace RegionClient

/-! ## Places -/

/-- One step into a value. -/
inductive Place where
  | member (name : String)
  | item (index : Nat)
  deriving DecidableEq

/-- The steps from the checked value to a value inside it. -/
abbrev Path : Type :=
  List Place

/-- The text of a path with one more step. The text of the root is empty and takes no point. -/
def Place.after (parent : String) : Place → String
  | member name => if parent = "" then name else parent ++ "." ++ name
  | item index => parent ++ "[" ++ Numeral.ofNat index ++ "]"

/-- The text of a path. A member with an empty name at the root adds nothing to it. -/
def Path.text (path : Path) : String :=
  path.foldl Place.after ""

@[simp] theorem Path.text_nil : Path.text [] = "" :=
  rfl

@[simp] theorem Path.text_concat (path : Path) (place : Place) :
    Path.text (path ++ [place]) = place.after (Path.text path) := by
  simp [Path.text]

/-! ## Findings -/

/-- What a check found: the kind of a value, and the value itself if it is a scalar. -/
inductive Finding where
  | nothing
  | null
  | bool (value : Bool)
  | integer (value : Int)
  | double (value : Binary64)
  | string (value : String)
  | list (length : Nat)
  | map
  deriving DecidableEq

/-- The finding for a value. -/
def Json.finding : Json → Finding
  | .null => .null
  | .bool b => .bool b
  | .integer n => .integer n
  | .double d => .double d
  | .string s => .string s
  | .list items => .list items.length
  | .object _ => .map

/-- The wording of a finding. -/
def Finding.text : Finding → String
  | nothing => "nothing"
  | null => "null"
  | bool b => "bool(" ++ (if b then "true" else "false") ++ ")"
  | integer n => "int(" ++ Numeral.ofInt n ++ ")"
  | double d => "float(" ++ Json.doubleText d ++ ")"
  | string s => "string(" ++ Text.quoted s ++ ")"
  | list length => "list(len " ++ Numeral.ofNat length ++ ")"
  | map => "map"

/-! ## Faults -/

/-- What is wrong at a place. -/
inductive Problem where
  | mismatch (expected : String) (found : Finding)
  | undeclared
  deriving DecidableEq

/-- The wording of a problem. -/
def Problem.text : Problem → String
  | mismatch expected found => "expected " ++ expected ++ ", got " ++ found.text
  | undeclared => "field not declared in schema"

/-- A problem and its place. -/
structure SchemaFault where
  path : Path
  problem : Problem
  deriving DecidableEq

/-- The wording of a fault, which begins with the place unless that is the root. -/
def SchemaFault.message (fault : SchemaFault) : String :=
  let path := fault.path.text
  if path = "" then fault.problem.text else path ++ ": " ++ fault.problem.text

/-- The fault of a value that is not what was expected. -/
def SchemaFault.mismatch (path : Path) (expected : String) (value : Json) : SchemaFault :=
  ⟨path, .mismatch expected value.finding⟩

/-- The fault of a value that is not there. -/
def SchemaFault.missing (path : Path) (expected : String) : SchemaFault :=
  ⟨path, .mismatch expected .nothing⟩

end RegionClient
