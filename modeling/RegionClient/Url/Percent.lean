import RegionClient.Text.Utf8

set_option autoImplicit false

/-! # Percent encoding

A character that a part of an address cannot hold is written as its UTF-8 bytes, each as a percent
sign and two capital hexadecimal digits. What a part cannot hold depends on the part; no part holds
controls or characters beyond ASCII.
-/

namespace RegionClient.Percent

/-! ## Encoding -/

/-- The capital hexadecimal digit of a number below 16. -/
def hexDigit (n : Nat) : Char :=
  (Nat.digitChar n).toUpper

/-- The encoded form of a byte. -/
def encodeByte (b : UInt8) : List Char :=
  ['%', hexDigit (b.toNat / 16), hexDigit (b.toNat % 16)]

/-- The encoded form of a character. -/
def encodeChar (c : Char) : List Char :=
  (String.utf8EncodeChar c).flatMap encodeByte

/-- Encodes the characters that cannot stand for themselves. -/
def encode (encoded : Char → Bool) (s : List Char) : List Char :=
  s.flatMap fun c => if encoded c then encodeChar c else [c]

/-! ## What is encoded -/

/-- Controls and characters beyond ASCII. -/
def isControl (c : Char) : Bool :=
  c.toNat < 0x20 || 0x7F ≤ c.toNat

/-- What a fragment does not hold. -/
def inFragment (c : Char) : Bool :=
  isControl c || c ∈ [' ', '"', '<', '>', '\x60']

/-- What a query does not hold. -/
def inQuery (c : Char) : Bool :=
  isControl c || c ∈ [' ', '"', '#', '<', '>']

/-- What the query of a special scheme does not hold. -/
def inSpecialQuery (c : Char) : Bool :=
  inQuery c || c == '\''

/-- What a path does not hold. -/
def inPath (c : Char) : Bool :=
  inFragment c || c ∈ ['#', '?', '\x7b', '\x7d', '^', '|']

/-- What a single segment does not hold, if it is to be read back as one segment; a backslash
separates segments in special schemes only. -/
def inSegment (special : Bool) (c : Char) : Bool :=
  inPath c || c ∈ ['/', '%'] || (special && c == '\\')

/-- What a user name or password does not hold. -/
def inUserInfo (c : Char) : Bool :=
  inPath c || c ∈ ['/', ':', ';', '=', '@', '[', '\\', ']']

/-! ## Decoding -/

/-- The value of a hexadecimal digit. -/
def hexValue? (b : UInt8) : Option Nat :=
  let n := b.toNat
  if 0x30 ≤ n ∧ n ≤ 0x39 then some (n - 0x30)
  else if 0x41 ≤ n ∧ n ≤ 0x46 then some (n - 0x41 + 10)
  else if 0x61 ≤ n ∧ n ≤ 0x66 then some (n - 0x61 + 10)
  else none

/-- The bytes that an encoded text stands for; a percent sign without two digits
stands for itself. -/
def decode : List UInt8 → List UInt8
  | 0x25 :: a :: b :: rest =>
    match hexValue? a, hexValue? b with
    | some x, some y => UInt8.ofNat (16 * x + y) :: decode rest
    | _, _ => 0x25 :: decode (a :: b :: rest)
  | b :: rest => b :: decode rest
  | [] => []

/-- The text that an encoded text stands for, unless its bytes are no UTF-8. -/
def decodeText? (s : String) : Option String :=
  Utf8.decode? (decode (Utf8.encode s))

/-! ## Forms -/

/-- The form of a character in form data: letters, digits and four signs stay, a space becomes a
plus. -/
def formChar (c : Char) : List Char :=
  if c.isAlphanum || c ∈ ['*', '-', '.', '_'] then [c]
  else if c = ' ' then ['+']
  else encodeChar c

/-- The form data of keys with values. -/
def form : List (String × String) → List Char
  | [] => []
  | [(key, value)] => key.toList.flatMap formChar ++ '=' :: value.toList.flatMap formChar
  | (key, value) :: rest =>
    key.toList.flatMap formChar ++ '=' :: value.toList.flatMap formChar ++ '&' :: form rest

end RegionClient.Percent
