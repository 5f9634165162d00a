import RegionClient.Text.Pieces
import RegionClient.Url.Percent

set_option autoImplicit false

/-! # Paths

The path of a URL is either a text without structure or a list of segments, each after a slash.
Segments are read one by one on top of those that are there: one dot adds nothing, two dots take the
last segment away, and a path that ends in either ends in a slash.
-/

namespace RegionClient

/-- Where something is on its host. -/
inductive UrlPath where
  /-- A text without structure. -/
  | plain (text : String)
  /-- Segments, each after a slash. -/
  | segments (names : List String)
  deriving DecidableEq

namespace UrlPath

/-- The written form of a path. -/
def text : UrlPath → String
  | plain s => s
  | segments names => String.join (names.map ("/" ++ ·))

/-! ## Reading segments -/

/-- Whether a segment is one dot, either of which may be percent-encoded. -/
def isDot (s : List Char) : Bool :=
  s.map Char.toLower ∈ [['.'], ['%', '2', 'e']]

/-- Whether a segment is two dots. -/
def isDoubleDot (s : List Char) : Bool :=
  s.map Char.toLower ∈ [['.', '.'], ['.', '%', '2', 'e'], ['%', '2', 'e', '.'],
    ['%', '2', 'e', '%', '2', 'e']]

/-- Whether a segment names a drive: a letter and a colon or a bar. -/
def isDrive : List Char → Bool
  | [c, d] => c.isAlpha && (d == ':' || d == '|')
  | _ => false

/-- How segments are read. -/
structure Rules where
  /-- Whether the first segment may name a drive, which two dots do not leave. -/
  drives : Bool
  /-- Which characters are percent-encoded. -/
  encoded : Char → Bool

/-- The segments without the last, unless that names a drive. -/
def parent (r : Rules) (names : List String) : List String :=
  match names with
  | [only] => if r.drives && isDrive only.toList then [only] else []
  | _ => names.dropLast

/-- A segment as it is kept; the name of a drive is written with a colon. -/
def segment (r : Rules) (names : List String) (s : List Char) : String :=
  match s with
  | [c, d] =>
    if r.drives && names.isEmpty && isDrive [c, d] then String.ofList [c, ':']
    else String.ofList [c, d]
  | _ => String.ofList s

/-- Reads encoded segments on top of others. -/
def walkEncoded (r : Rules) (names : List String) : List (List Char) → List String
  | [] => names
  | [s] =>
    if isDoubleDot s then parent r names ++ [""]
    else if isDot s then names ++ [""]
    else names ++ [segment r names s]
  | s :: rest =>
    if isDoubleDot s then walkEncoded r (parent r names) rest
    else if isDot s then walkEncoded r names rest
    else walkEncoded r (names ++ [segment r names s]) rest

/-- Reads segments on top of others. Where percent signs are encoded, an encoded dot is no dot. -/
def walk (r : Rules) (names : List String) (segments : List (List Char)) : List String :=
  walkEncoded r names (segments.map (Percent.encode r.encoded))

/-- The segments of a path of files, which does not begin with empty ones. -/
def withoutLeadingEmpty : List String → List String
  | "" :: next :: rest => withoutLeadingEmpty (next :: rest)
  | names => names

/-! ## Changes -/

/-- The path, completed by a slash if it does not end in one. A text without structure that would
begin with a slash has it encoded. -/
def closed : UrlPath → UrlPath
  | plain s => if s.toList.getLast? = some '/' then plain s
    else if s = "" then plain "%2F" else plain (s ++ "/")
  | segments names => if names.getLast? = some "" then segments names else segments (names ++ [""])

/-- The segments without an empty one at the end, which a slash at the end leaves.
The root stays. -/
def withoutSlash (names : List String) : List String :=
  if 1 < names.length ∧ names.getLast? = some "" then names.dropLast else names

/-- Adds one segment, in which slashes and percent signs are encoded. A name of one or two dots adds
nothing, and tabs and line breaks in a name do not count. -/
def push (special : Bool) (names : List String) (name : String) : List String :=
  if name = "." ∨ name = ".." then names
  else
    walk ⟨false, Percent.inSegment special⟩ (if names = [""] then [] else names)
      [name.toList.filter fun c => !(c == '\t' || c == '\n' || c == '\r')]

end UrlPath

end RegionClient
