import RegionClient.Text.Pieces

set_option autoImplicit false

/-! # Domain names

A URL holds a domain name in its ASCII form. Which form a name with other characters has, or one
with a label in Punycode, is for those to say who know the tables for it, and a `DomainForm` says
it. All other names are put in small letters, and `DomainForm.plain` knows only these.
-/

namespace RegionClient

/-- Gives the ASCII form of a domain name, if it has one. -/
abbrev DomainForm : Type :=
  List Char → Option (List Char)

namespace DomainForm

/-- Whether the ASCII form of a domain name may have a character, which is no control and none of
the signs that end a host or are confused with such. -/
def isAllowed (c : Char) : Bool :=
  0x20 < c.toNat && c.toNat < 0x7F &&
    c ∉ ['%', '#', '/', ':', '<', '>', '?', '@', '[', '\\', ']', '^', '|']

/-- Whether a label says that it is in Punycode. -/
def isMarked (label : List Char) : Bool :=
  (label.take 4).map Char.toLower == ['x', 'n', '-', '-']

/-- Whether no tables are needed for a name. -/
def isPlain (s : List Char) : Bool :=
  s.all isAllowed && !(Text.pieces (· == '.') s).any isMarked

/-- Puts plain names in small letters. -/
def plain : DomainForm := fun s =>
  if isPlain s then some (s.map Char.toLower) else none

end DomainForm

end RegionClient
