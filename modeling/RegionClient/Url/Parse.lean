import RegionClient.Url.Basic

set_option autoImplicit false

/-! # Reading URLs

`Url.parse` reads an absolute address and `Url.join` an address that may be relative to a base.
Controls and spaces around an address do not count, nor do tabs and line breaks anywhere in it.

A fragment begins at the first `#` and a query at the first `?` before it; what is left is scheme,
authority and path. Whatever may read a host takes the ASCII form of domain names (`domains`).
-/

namespace RegionClient.Url

/-! ## Cutting -/

/-- The text before the first occurrence of a character, and the text after it. -/
def cutFirst (c : Char) : List Char → List Char × Option (List Char)
  | [] => ([], none)
  | x :: rest =>
    if x = c then ([], some rest)
    else
      let (before, after) := cutFirst c rest
      (x :: before, after)

/-- The text before the last occurrence of a character, if there is one, and the text after it. -/
def cutLast (c : Char) : List Char → Option (List Char) × List Char
  | [] => (none, [])
  | x :: rest =>
    match cutLast c rest with
    | (some before, after) => (some (x :: before), after)
    | (none, after) => if x = c then (some [], after) else (none, x :: after)

/-- An address in its coarse parts. -/
structure Parts where
  body : List Char
  query : Option (List Char)
  fragment : Option (List Char)

/-- Cuts an address at its fragment and its query. -/
def Parts.of (s : List Char) : Parts :=
  let (s, fragment) := cutFirst '#' s
  let (body, query) := cutFirst '?' s
  ⟨body, query, fragment⟩

/-- The address without controls and spaces around it and without tabs and line breaks. -/
def clean (s : List Char) : List Char :=
  let isEdge (c : Char) : Bool := c.toNat ≤ 0x20
  ((s.dropWhile isEdge).reverse.dropWhile isEdge).reverse.filter fun c =>
    !(c == '\t' || c == '\n' || c == '\r')

/-- Whether a character may stand in a scheme. -/
def isSchemeChar (c : Char) : Bool :=
  c.isAlphanum || c == '+' || c == '-' || c == '.'

/-- The scheme at the beginning of an address, in small letters, and what follows its colon. -/
def scheme? (s : List Char) : Option (String × List Char) :=
  match s, s.dropWhile isSchemeChar with
  | c :: _, ':' :: rest =>
    if c.isAlpha then some (String.ofList ((s.takeWhile isSchemeChar).map Char.toLower), rest)
    else none
  | _, _ => none

/-- Whether a character separates segments; a backslash does so in special schemes. -/
def isSlash (special : Bool) (c : Char) : Bool :=
  c == '/' || (special && c == '\\')

/-! ## Authorities -/

/-- The host and the port in a text; a colon in brackets begins no port. -/
def cutPort (inBrackets : Bool) : List Char → List Char × Option (List Char)
  | [] => ([], none)
  | c :: rest =>
    if c = ':' ∧ !inBrackets then ([], some rest)
    else
      let (host, port) := cutPort (c == '[' || (inBrackets && c != ']')) rest
      (c :: host, port)

/-- The port in a text. None is given by an empty text and by the usual port of the scheme. -/
def readPort (scheme : String) (s : List Char) : Except UrlFault (Option Nat) :=
  if s = [] then .ok none
  else
    match (Numeral.natural? s).filter (· < 65536) with
    | none => .error .invalidPort
    | some p => .ok (if usualPort? scheme = some p then none else some p)

/-- The host in a text, under the rules of a scheme. -/
def readHost (domains : DomainForm) (scheme : String) (s : List Char) : Except UrlFault Host :=
  if isSpecial scheme then if s = [] then .error .emptyHost else Host.parse domains s
  else Host.parsePlain s

/-- Reads an authority. User name, password and port need a host. -/
def readAuthority (domains : DomainForm) (scheme : String) (s : List Char) :
    Except UrlFault Authority := do
  let (userInfo, server) := cutLast '@' s
  let (username, password) := cutFirst ':' (userInfo.getD [])
  let (hostText, portText) := cutPort false server
  let host ← readHost domains scheme hostText
  if host.isEmpty ∧ (userInfo.isSome ∨ portText.isSome) then throw .emptyHost
  let port ← readPort scheme (portText.getD [])
  let encoded (s : List Char) : String := String.ofList (Percent.encode Percent.inUserInfo s)
  return ⟨encoded username, encoded (password.getD []), host, port⟩

/-! ## Paths -/

/-- How the segments of a scheme are read. -/
def rules (scheme : String) : UrlPath.Rules :=
  ⟨scheme == "file", Percent.inPath⟩

/-- Reads segments on top of others, under the rules of a scheme. -/
def segmentsOn (scheme : String) (names : List String) (s : List Char) : UrlPath :=
  let read := UrlPath.walk (rules scheme) names (Text.pieces (isSlash (isSpecial scheme)) s)
  .segments (if scheme = "file" then UrlPath.withoutLeadingEmpty read else read)

/-- Reads the path after an authority, without its first slash. Only a path in a special scheme has
a segment even if it is empty. -/
def pathAfterAuthority (scheme : String) (s : List Char) : UrlPath :=
  match s with
  | [] => if isSpecial scheme then .segments [""] else .segments []
  | c :: rest =>
    segmentsOn scheme [] (if isSlash (isSpecial scheme) c then rest else s)

/-! ## URLs -/

/-- A URL with query and fragment of an address. -/
def assemble (parts : Parts) (scheme : String) (authority : Option Authority) (path : UrlPath) :
    Url :=
  let inQuery := if isSpecial scheme then Percent.inSpecialQuery else Percent.inQuery
  ⟨scheme, authority, path,
    parts.query.map fun q => String.ofList (Percent.encode inQuery q),
    parts.fragment.map fun f => String.ofList (Percent.encode Percent.inFragment f)⟩

/-- Reads what follows the two slashes before an authority. -/
def afterSlashes (domains : DomainForm) (parts : Parts) (scheme : String) (s : List Char) :
    Except UrlFault Url := do
  let isEnd := isSlash (isSpecial scheme)
  let a ← readAuthority domains scheme (s.takeWhile fun c => !isEnd c)
  return assemble parts scheme (some a) (pathAfterAuthority scheme (s.dropWhile fun c => !isEnd c))

/-- Reads an address that takes scheme and authority from a base. -/
def relative (domains : DomainForm) (parts : Parts) (base : Url) (names : List String)
    (s : List Char) : Except UrlFault Url :=
  match s with
  | [] =>
    let u := assemble parts base.scheme base.authority base.path
    .ok (if parts.query.isSome then u else { u with query := base.query })
  | c :: rest =>
    if c = '/' ∨ c = '\\' then
      match rest with
      | d :: authorityAndPath =>
        if d = '/' ∨ d = '\\' then
          afterSlashes domains parts base.scheme
            (if c = '/' ∧ d = '/' then authorityAndPath
              else authorityAndPath.dropWhile (isSlash true))
        else .ok (assemble parts base.scheme base.authority (segmentsOn base.scheme [] rest))
      | [] => .ok (assemble parts base.scheme base.authority (segmentsOn base.scheme [] rest))
    else
      .ok (assemble parts base.scheme base.authority
        (segmentsOn base.scheme (UrlPath.parent (rules base.scheme) names) s))

/-- The host of a file, empty for the local one. -/
def fileHost (domains : DomainForm) (s : List Char) : Except UrlFault Host :=
  if s = [] then .ok (.name "")
  else (Host.parse domains s).map fun h => if h = .name "localhost" then .name "" else h

/-- Reads what follows the two slashes after the scheme of files. A drive is no host,
and has none. -/
def fileAfterSlashes (domains : DomainForm) (parts : Parts) (s : List Char) :
    Except UrlFault Url := do
  let hostText := s.takeWhile fun c => !isSlash true c
  let isDrive := UrlPath.isDrive hostText
  let host ← if isDrive then pure (Host.name "") else fileHost domains hostText
  let rest := if isDrive then s else s.dropWhile fun c => !isSlash true c
  let path := pathAfterAuthority "file" rest
  let onDrive := match path with
    | .segments (first :: _) => UrlPath.isDrive first.toList
    | _ => false
  return assemble parts "file" (some ⟨"", "", if onDrive then .name "" else host, none⟩) path

/-- The local root of files. -/
def localFiles : Url :=
  ⟨"file", some ⟨"", "", .name "", none⟩, .segments [""], none, none⟩

/-- Whether the first segment of a text names a drive. -/
def beginsWithDrive (s : List Char) : Bool :=
  UrlPath.isDrive (s.takeWhile fun c => !isSlash true c)

/-- Reads an address of files. A drive in it, or else the drive of the base, comes first. -/
def file (domains : DomainForm) (parts : Parts) (base : Option Url) (s : List Char) :
    Except UrlFault Url :=
  let base := base.getD localFiles
  let names := match base.path with
    | .segments names => names
    | .plain _ => []
  let drive := (names.take 1).filter fun first => UrlPath.isDrive first.toList
  match s with
  | c :: rest =>
    if isSlash true c then
      match rest with
      | d :: after =>
        if isSlash true d then fileAfterSlashes domains parts after
        else if beginsWithDrive rest then
          .ok (assemble parts "file" localFiles.authority (segmentsOn "file" [] rest))
        else .ok (assemble parts "file" base.authority (segmentsOn "file" drive rest))
      | [] => .ok (assemble parts "file" base.authority (segmentsOn "file" drive rest))
    else if beginsWithDrive s then
      .ok (assemble parts "file" localFiles.authority (segmentsOn "file" [] s))
    else relative domains parts base names s
  | [] => relative domains parts base names s

/-- Reads an address with a scheme. In a special scheme, slashes before the authority do not count,
and an address with fewer than two of them is relative to a base with that scheme. -/
def withScheme (domains : DomainForm) (parts : Parts) (base : Option Url) (scheme : String)
    (s : List Char) : Except UrlFault Url :=
  let base := base.filter fun b => b.scheme == scheme
  if scheme = "file" then file domains parts base s
  else if isSpecial scheme then
    let slashes := s.takeWhile (isSlash true)
    match base with
    | some b =>
      if slashes.length < 2 then
        match b.path with
        | .segments names => relative domains parts b names s
        | .plain _ => .error .relativeToPlain
      else afterSlashes domains parts scheme (s.drop slashes.length)
    | none => afterSlashes domains parts scheme (s.drop slashes.length)
  else
    match s with
    | '/' :: '/' :: rest => afterSlashes domains parts scheme rest
    | '/' :: rest => .ok (assemble parts scheme none (segmentsOn scheme [] rest))
    | _ =>
      .ok (assemble parts scheme none (.plain (String.ofList (Percent.encode Percent.isControl s))))

/-- Reads an address without a scheme. A base whose path has no structure takes a
new fragment only. -/
def withoutScheme (domains : DomainForm) (parts : Parts) (base : Url) : Except UrlFault Url :=
  match base.path with
  | .plain _ =>
    if parts.body = [] ∧ parts.query = none ∧ parts.fragment.isSome then
      relative domains parts base [] []
    else .error .relativeToPlain
  | .segments names =>
    if base.scheme = "file" then file domains parts (some base) parts.body
    else relative domains parts base names parts.body

/-- Reads an address that may be relative to a base. -/
def resolve (domains : DomainForm) (base : Option Url) (input : String) : Except UrlFault Url :=
  let parts := Parts.of (clean input.toList)
  match scheme? parts.body, base with
  | some (scheme, rest), _ => withScheme domains parts base scheme rest
  | none, some b => withoutScheme domains parts b
  | none, none => .error .relativeWithoutBase

/-- Reads an absolute address. -/
def parse (domains : DomainForm) (input : String) : Except UrlFault Url :=
  resolve domains none input

/-- Reads an address that may be relative to a URL. -/
def join (domains : DomainForm) (base : Url) (input : String) : Except UrlFault Url :=
  resolve domains (some base) input

end RegionClient.Url
