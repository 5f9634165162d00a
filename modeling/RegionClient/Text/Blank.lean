set_option autoImplicit false

/-! # Blank characters

The characters with the White_Space property, and trimming by them. The property is wider than the
ASCII blanks (it has the no-break space and the ideographic space) and leaves out the zero-width
space and the separators U+001C to U+001F.
-/

namespace RegionClient.Text

/-- Whether a character has the White_Space property. -/
def isBlank (c : Char) : Bool :=
  let n := c.toNat
  (0x9 ≤ n && n ≤ 0xD) || n == 0x20 || n == 0x85 || n == 0xA0 || n == 0x1680 ||
    (0x2000 ≤ n && n ≤ 0x200A) || n == 0x2028 || n == 0x2029 || n == 0x202F || n == 0x205F ||
    n == 0x3000

/-- The characters from the first that is not blank to the last that is not. -/
def trimmed (s : List Char) : List Char :=
  ((s.dropWhile isBlank).reverse.dropWhile isBlank).reverse

/-- The text without the blanks around it. -/
def trim (s : String) : String :=
  String.ofList (trimmed s.toList)

end RegionClient.Text
