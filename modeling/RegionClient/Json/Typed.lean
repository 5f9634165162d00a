import RegionClient.Json.Render
import RegionClient.Text.Quoted

set_option autoImplicit false

/-! # Typed views with reasons

Reading a value as a text, a truth value or a number of a certain width, with the reason if it is
something else. Unlike a checker, a view converts nothing.
-/

namespace RegionClient

/-- Why a value is not of a wanted type. -/
inductive TypeFault where
  | wrongType (found expected : String)
  | outOfRange (value : Int) (expected : String)
  | missingField (name : String)
  | wrongLength (length : Nat) (expected : String)
  deriving DecidableEq

/-- The wording of a type fault. -/
def TypeFault.message : TypeFault → String
  | wrongType found expected => "invalid type: " ++ found ++ ", expected " ++ expected
  | outOfRange value expected =>
    "invalid value: integer \x60" ++ Numeral.ofInt value ++ "\x60, expected " ++ expected
  | missingField name => "missing field \x60" ++ name ++ "\x60"
  | wrongLength length expected =>
    "invalid length " ++ Numeral.ofNat length ++ ", expected " ++ expected

namespace Json

/-- A value as a type fault shows it. -/
def shown : Json → String
  | null => "null"
  | bool b => "boolean \x60" ++ (if b then "true" else "false") ++ "\x60"
  | integer n => "integer \x60" ++ Numeral.ofInt n ++ "\x60"
  | double d => "floating point \x60" ++ doubleText d ++ "\x60"
  | string s => "string " ++ Text.quoted s
  | list _ => "sequence"
  | object _ => "map"

/-- The value as a text. -/
def asText : Json → Except TypeFault String
  | string s => .ok s
  | other => .error (.wrongType other.shown "a string")

/-- The value as a truth value. -/
def asBool : Json → Except TypeFault Bool
  | bool b => .ok b
  | other => .error (.wrongType other.shown "a boolean")

/-- The value as a natural number below `2 ^ bits`, under the name of that type. -/
def asNatural (bits : Nat) (typeName : String) : Json → Except TypeFault Nat
  | integer n =>
    if 0 ≤ n ∧ n < 2 ^ bits then .ok n.toNat else .error (.outOfRange n typeName)
  | other => .error (.wrongType other.shown typeName)

end Json

end RegionClient
