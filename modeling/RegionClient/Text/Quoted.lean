import RegionClient.Text.Concealed
import RegionClient.Text.Numeral

set_option autoImplicit false

/-! # Quoted text

A text between double quotes, on one line and free of characters that a reader cannot see: the quote
and the backslash are escaped by a backslash, the usual controls by a letter, and every other
concealed character by its number in braces.
-/

namespace RegionClient.Text

/-- The way a character is written between quotes. -/
def quotedChar (c : Char) : List Char :=
  if c = '"' ∨ c = '\\' then ['\\', c]
  else if c = '\n' then ['\\', 'n']
  else if c = '\r' then ['\\', 'r']
  else if c = '\t' then ['\\', 't']
  else if c = '\x00' then ['\\', '0']
  else if isConcealed c then
    ['\\', 'u', '\x7b'] ++ Numeral.hexadecimal c.toNat ++ ['\x7d']
  else [c]

/-- A text between double quotes. -/
def quoted (s : String) : String :=
  String.ofList ('"' :: s.toList.flatMap quotedChar ++ ['"'])

end RegionClient.Text
