import RegionClient.Url.Host
import RegionClient.Url.Path

set_option autoImplicit false

/-! # URLs

An absolute address in parts, each already in its encoded form. Schemes that name a place on a
network are special: they always have a path, and a backslash in it is as good as a slash.
-/

namespace RegionClient

/-! ## Authorities -/

/-- Who is asked, and as whom. -/
structure Authority where
  username : String
  /-- The password, empty if there is none. -/
  password : String
  host : Host
  /-- The port, unless it is the usual one of the scheme. -/
  port : Option Nat
  deriving DecidableEq

namespace Authority

/-- Whether there is a user name or a password. -/
def hasUserInfo (a : Authority) : Bool :=
  !(a.username.isEmpty && a.password.isEmpty)

/-- The user name and the password before a host. -/
def userInfoText (a : Authority) : String :=
  if a.hasUserInfo then
    a.username ++ (if a.password = "" then "" else ":" ++ a.password) ++ "@"
  else ""

/-- The written form of an authority. -/
def text (a : Authority) : String :=
  a.userInfoText ++ a.host.text ++ ((a.port.map fun p => ":" ++ Numeral.ofNat p).getD "")

end Authority

/-! ## URLs -/

/-- An absolute address. -/
structure Url where
  scheme : String
  authority : Option Authority
  path : UrlPath
  query : Option String
  fragment : Option String
  deriving DecidableEq

namespace Url

/-- The special schemes with their usual ports. -/
def specialSchemes : List (String × Option Nat) :=
  [("http", some 80), ("https", some 443), ("ws", some 80), ("wss", some 443), ("ftp", some 21),
   ("file", none)]

/-- Whether a scheme is special. -/
def isSpecial (scheme : String) : Bool :=
  specialSchemes.any (·.1 == scheme)

/-- The usual port of a scheme. -/
def usualPort? (scheme : String) : Option Nat :=
  (specialSchemes.find? (·.1 == scheme)).bind Prod.snd

/-- The host, if there is one and it is not empty. -/
def host? (u : Url) : Option Host :=
  (u.authority.map Authority.host).filter fun h => !h.isEmpty

/-- The scheme, the host and the port: the server that a request goes to. -/
def server (u : Url) : String × Option Host × Option Nat :=
  (u.scheme, u.host?, u.authority.bind Authority.port)

/-- What stands between scheme and path: the authority, or a mark that keeps a path that begins with
two slashes from being read as one. -/
def beforePath (u : Url) : String :=
  match u.authority, u.path with
  | some a, _ => "//" ++ a.text
  | none, .segments ("" :: _ :: _) => "/."
  | none, _ => ""

/-- The written form of a URL. -/
def text (u : Url) : String :=
  u.scheme ++ ":" ++ u.beforePath ++ u.path.text ++ ((u.query.map ("?" ++ ·)).getD "") ++
    ((u.fragment.map ("#" ++ ·)).getD "")

/-- The same URL without user name and password. -/
def withoutUserInfo (u : Url) : Url :=
  { u with authority := u.authority.map fun a => { a with username := "", password := "" } }

/-- The same URL without a fragment. -/
def withoutFragment (u : Url) : Url :=
  { u with fragment := none }

/-- The same URL with a path that ends in a slash, so that relative addresses lead beneath it. -/
def closed (u : Url) : Url :=
  { u with path := u.path.closed }

/-- The same URL with parameters added to its query. -/
def addQuery (u : Url) (parameters : List (String × String)) : Url :=
  let added := String.ofList (Percent.form parameters)
  match u.query with
  | none => { u with query := some added }
  | some "" => { u with query := some added }
  | some q => { u with query := some (q ++ "&" ++ added) }

end Url

end RegionClient
