import RegionClient.Schema.Fault
import RegionClient.Text.Blank

set_option autoImplicit false

/-! # Checkers

A checker describes the shape that a value must have and brings it into a strictly typed form. It is
strict about shape and lenient about representation: a list checker refuses a single value, but a
forced integer may come as a number with a fraction or as text.

* `Checker.coerce` checks a value and gives its strict form, or the first fault.
* `Schema.check` does so for the members of an object; what the schema does not declare is dropped.
-/

namespace RegionClient

/-! ## Shapes -/

/-- What a schema says of a member that is missing. -/
inductive Presence where
  /-- The member must be there; null goes through its checker. -/
  | required
  /-- The member may be missing; null goes through its checker. -/
  | optional
  /-- A value stands in for a member that is missing or null. -/
  | default (value : Json)

/-- The declaration of a member of an object. -/
structure Member (checker : Type) where
  name : String
  checker : checker
  presence : Presence

/-- The shape that a value must have. -/
inductive Checker where
  /-- A text. -/
  | string
  /-- A whole number in the signed 64-bit range. -/
  | int
  /-- A number or the text of one, cut to a whole number in the signed 64-bit range. -/
  | forcedInt
  /-- A whole number in the unsigned 64-bit range. -/
  | uint
  /-- A number that is not below zero or the text of one, cut to a whole number in the unsigned
  64-bit range. -/
  | forcedUint
  /-- A truth value. -/
  | bool
  /-- Null. -/
  | null
  /-- Any value, which stays as it is. -/
  | any
  /-- A list of values of one shape. -/
  | list (item : Checker)
  /-- An object whose values have one shape, under any keys. -/
  | stringMap (value : Checker)
  /-- A value that one of the checkers accepts; the first to accept it counts. -/
  | oneOf (alternatives : List Checker)
  /-- An object with declared members. -/
  | fields (members : List (Member Checker))

/-- The declared members of an object, in the order in which they are checked. -/
abbrev Schema : Type :=
  List (Member Checker)

instance : Inhabited Checker :=
  ⟨.any⟩

instance : Inhabited (Member Checker) :=
  ⟨⟨"", .any, .required⟩⟩

namespace Checker

/-- Null or a value of a shape. -/
def nullable (inner : Checker) : Checker :=
  oneOf [null, inner]

/-- Any object. -/
def object : Checker :=
  stringMap any

mutual

/-- The name of a shape in a fault. -/
def expected : Checker → String
  | string => "string"
  | int | forcedInt => "int"
  | uint | forcedUint => "uint"
  | bool => "bool"
  | null => "null"
  | any => "any value"
  | list _ => "list"
  | stringMap _ | fields _ => "map"
  | oneOf alternatives => " or ".intercalate (expectedEach alternatives)

/-- The names of several shapes. -/
def expectedEach : List Checker → List String
  | [] => []
  | c :: cs => expected c :: expectedEach cs

end

/-! ## Integers -/

/-- A number, if the signed 64-bit range holds it. -/
def inSigned (n : Int) : Option Int :=
  if -2 ^ 63 ≤ n ∧ n < 2 ^ 63 then some n else none

/-- A number, if the unsigned 64-bit range holds it. -/
def inUnsigned (n : Int) : Option Int :=
  if 0 ≤ n ∧ n < 2 ^ 64 then some n else none

/-- A value that is a signed integer, or a double without a fraction that is one. -/
def int? : Json → Option Int
  | .integer n => inSigned n
  | .double d => if d.isWhole then inSigned d.whole else none
  | _ => none

/-- A value that is an unsigned integer, or a double without a fraction that is one. -/
def uint? : Json → Option Int
  | .integer n => inUnsigned n
  | .double d => if d.isWhole then inUnsigned d.whole else none
  | _ => none

/-- A double cut to a signed integer. -/
def cutSigned (d : Binary64) : Option Int :=
  inSigned d.whole

/-- A double cut to an unsigned integer; nothing below zero counts, however little. -/
def cutUnsigned (d : Binary64) : Option Int :=
  if d.isBelowZero then none else inUnsigned d.whole

/-- The double nearest to the decimal fraction in a text. -/
def double? (s : List Char) : Option Binary64 :=
  (Numeral.decimal? s).bind Binary64.ofDecimal?

/-- A value that can be cut to a signed integer. A text is read exactly if it is a numeral in range,
and through a double if not. -/
def forcedInt? : Json → Option Int
  | .integer n => inSigned n
  | .double d => cutSigned d
  | .string s =>
    let t := Text.trimmed s.toList
    Numeral.signed? 64 t <|> (double? t).bind cutSigned
  | _ => none

/-- A value that can be cut to an unsigned integer, with texts read as for a signed one. -/
def forcedUint? : Json → Option Int
  | .integer n => inUnsigned n
  | .double d => cutUnsigned d
  | .string s =>
    let t := Text.trimmed s.toList
    ((Numeral.unsigned? 64 t).map fun n => (n : Int)) <|> (double? t).bind cutUnsigned
  | _ => none

/-! ## Coercion -/

/-- An integer under a name for its kind, or the fault of a value that is none. -/
def integerOr (found : Option Int) (path : Path) (expected : String) (value : Json) :
    Except SchemaFault Json :=
  match found with
  | some n => .ok (.integer n)
  | none => .error (.mismatch path expected value)

/-- Each item of a list in its strict form, from position `index` on; the first fault counts. -/
def coerceItems (item : Path → Json → Except SchemaFault Json) (path : Path) :
    Nat → List Json → Except SchemaFault (List Json)
  | _, [] => .ok []
  | index, value :: rest => do
    let w ← item (path ++ [.item index]) value
    let ws ← coerceItems item path (index + 1) rest
    return w :: ws

/-- Each value of an object in its strict form, under its key; the first fault counts. -/
def coerceEntries (item : Path → Json → Except SchemaFault Json) (path : Path) :
    List (String × Json) → Except SchemaFault (List (String × Json))
  | [] => .ok []
  | (key, value) :: rest => do
    let w ← item (path ++ [.member key]) value
    let ws ← coerceEntries item path rest
    return (key, w) :: ws

mutual

/-- The strict form of the value at a path. -/
def coerceAt (c : Checker) (path : Path) (value : Json) : Except SchemaFault Json :=
  match c with
  | any => .ok value
  | string =>
    match value with
    | .string s => .ok (.string s)
    | _ => .error (.mismatch path (expected string) value)
  | bool =>
    match value with
    | .bool b => .ok (.bool b)
    | _ => .error (.mismatch path (expected bool) value)
  | null =>
    match value with
    | .null => .ok .null
    | _ => .error (.mismatch path (expected null) value)
  | int => integerOr (int? value) path (expected int) value
  | forcedInt => integerOr (forcedInt? value) path (expected forcedInt) value
  | uint => integerOr (uint? value) path (expected uint) value
  | forcedUint => integerOr (forcedUint? value) path (expected forcedUint) value
  | list item =>
    match value with
    | .list items => (coerceItems (coerceAt item) path 0 items).map .list
    | _ => .error (.mismatch path (expected (list item)) value)
  | stringMap item =>
    match value with
    | .object entries => (coerceEntries (coerceAt item) path entries).map .object
    | _ => .error (.mismatch path (expected (stringMap item)) value)
  | oneOf alternatives =>
    match coerceFirst alternatives path value with
    | .ok w => .ok w
    | .error (some deeper) => .error deeper
    | .error none => .error (.mismatch path (expected (oneOf alternatives)) value)
  | fields members =>
    match value with
    | .object entries =>
      (checkMembers members path entries .empty).map fun values => .object values.entries
    | _ => .error (.mismatch path (expected (fields members)) value)

/-- The strict form that the first accepting checker gives. If none accepts, the first fault whose
place reads differently from that of the value itself, for it says more than the shape that was
expected. -/
def coerceFirst (alternatives : List Checker) (path : Path) (value : Json) :
    Except (Option SchemaFault) Json :=
  match alternatives with
  | [] => .error none
  | c :: cs =>
    match coerceAt c path value with
    | .ok w => .ok w
    | .error fault =>
      match coerceFirst cs path value with
      | .ok w => .ok w
      | .error later =>
        .error (if fault.path.text = path.text then later else some fault)

/-- The strict forms of the declared members of an object, added to those of earlier declarations.
The first fault in the order of the declarations counts. -/
def checkMembers (members : List (Member Checker)) (path : Path) (entries : List (String × Json))
    (checked : SortedMap Json) : Except SchemaFault (SortedMap Json) :=
  match members with
  | [] => .ok checked
  | ⟨name, c, presence⟩ :: rest =>
    match findEntry name entries, presence with
    | none, .required => .error (.missing (path ++ [.member name]) (expected c))
    | none, .optional => checkMembers rest path entries checked
    | none, .default d => checkMembers rest path entries (checked.insert name d)
    | some .null, .default d => checkMembers rest path entries (checked.insert name d)
    | some value, _ =>
      match coerceAt c (path ++ [.member name]) value with
      | .error fault => .error fault
      | .ok w => checkMembers rest path entries (checked.insert name w)

end

/-- The strict form of a value, or the first fault. -/
def coerce (c : Checker) (value : Json) : Except SchemaFault Json :=
  coerceAt c [] value

end Checker

/-! ## Outer shapes -/

/-- The entries of a value that must be an object. -/
def Json.expectObject (value : Json) : Except SchemaFault (List (String × Json)) :=
  match value with
  | .object entries => .ok entries
  | _ => .error (.mismatch [] "map" value)

/-- Finds the first item that is no object, from position `index` on. -/
def Json.firstNoObject : Nat → List Json → Option SchemaFault
  | _, [] => none
  | index, .object _ :: rest => firstNoObject (index + 1) rest
  | index, value :: _ => some (.mismatch [.item index] "map" value)

/-- The items of a value that must be a list of objects. -/
def Json.expectObjects (value : Json) : Except SchemaFault (List Json) :=
  match value with
  | .list items =>
    match firstNoObject 0 items with
    | none => .ok items
    | some fault => .error fault
  | _ => .error (.mismatch [] "list" value)

end RegionClient
