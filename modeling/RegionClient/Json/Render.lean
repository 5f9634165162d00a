import RegionClient.Json.Value
import RegionClient.Number.Shortest

set_option autoImplicit false

/-! # Writing wire values

The compact written form: no blanks, entries in the order the object has them, doubles by their
shortest digits. A double always shows that it is one, by a point or an exponent: the point is
placed among the digits as long as the decimal exponent is from -5 to 15, and an exponent is
written, with its sign, beyond.
-/

namespace RegionClient.Json

/-! ## Doubles -/

/-- Digits with the point after the first `point` of them, filled up by zeros. -/
def positional (digits : List Char) (point : Int) : List Char :=
  if point ≤ 0 then '0' :: '.' :: List.replicate (-point).toNat '0' ++ digits
  else
    let places := point.toNat
    let fraction := digits.drop places
    digits.take places ++ List.replicate (places - digits.length) '0' ++
      '.' :: (if fraction.isEmpty then ['0'] else fraction)

/-- Digits with the point after the first of them, if there are more, and a signed exponent. -/
def scientific (digits : List Char) (exponent : Int) : List Char :=
  let mantissa := match digits with
    | first :: next :: more => first :: '.' :: next :: more
    | _ => digits
  let sign := if exponent < 0 then '-' else '+'
  mantissa ++ 'e' :: sign :: Nat.toDigits 10 exponent.natAbs

/-- The written form of a magnitude. -/
def magnitudeText (units : Nat) : List Char :=
  let (number, scale) := Binary64.shortest units
  let digits := Nat.toDigits 10 number
  let point := digits.length + scale
  if -5 < point ∧ point ≤ 16 then positional digits point
  else scientific digits (point - 1)

/-- The written form of a double. -/
def doubleText (d : Binary64) : String :=
  String.ofList ((if d.negative then ['-'] else []) ++ magnitudeText d.units)

/-! ## Texts -/

/-- The written form of a character inside a text: quote, backslash and controls are escaped. -/
def escaped (c : Char) : List Char :=
  if c = '"' ∨ c = '\\' then ['\\', c]
  else if c = '\n' then ['\\', 'n']
  else if c = '\r' then ['\\', 'r']
  else if c = '\t' then ['\\', 't']
  else if c.toNat = 8 then ['\\', 'b']
  else if c.toNat = 12 then ['\\', 'f']
  else if c.toNat < 0x20 then
    let digits := Numeral.hexadecimal c.toNat
    ['\\', 'u'] ++ List.replicate (4 - digits.length) '0' ++ digits
  else [c]

/-- The written form of a text. -/
def stringText (s : String) : List Char :=
  '"' :: s.toList.flatMap escaped ++ ['"']

/-! ## Values -/

mutual

/-- The written form of a value, as characters. -/
def written : Json → List Char
  | null => "null".toList
  | bool b => if b then "true".toList else "false".toList
  | integer n => (Numeral.ofInt n).toList
  | double d => (doubleText d).toList
  | string s => stringText s
  | list items => '[' :: writtenItems items ++ [']']
  | object entries => '\x7b' :: writtenEntries entries ++ ['\x7d']

/-- The items of a list with commas between them. -/
def writtenItems : List Json → List Char
  | [] => []
  | [item] => written item
  | item :: rest => written item ++ ',' :: writtenItems rest

/-- The entries of an object with commas between them. -/
def writtenEntries : List (String × Json) → List Char
  | [] => []
  | [(key, value)] => stringText key ++ ':' :: written value
  | (key, value) :: rest => stringText key ++ ':' :: written value ++ ',' :: writtenEntries rest

end

/-- The written form of a value. -/
def render (value : Json) : String :=
  String.ofList (written value)

end RegionClient.Json
