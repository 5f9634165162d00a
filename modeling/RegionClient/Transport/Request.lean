import RegionClient.Base64
import RegionClient.Error
import RegionClient.Parameters
import RegionClient.Url.Parse

set_option autoImplicit false

/-! # Requests

What is sent to a region controller: a method, an address, and a payload that is empty, form data or
an upload. The headers follow from these, and so does the body once a boundary for the parts of an
upload is chosen.
-/

namespace RegionClient

/-- What a request does at its address. -/
inductive Method where
  | get
  | post
  | put
  | delete
  deriving DecidableEq

/-- The name of a method. -/
def Method.text : Method → String
  | get => "GET"
  | post => "POST"
  | put => "PUT"
  | delete => "DELETE"

/-! ## Payloads -/

/-- What a request carries. -/
inductive Payload where
  | empty
  /-- Parameters as form data. -/
  | form (parameters : Parameters)
  /-- A file with its name, in parts. -/
  | upload (filename : String) (content : List UInt8)
  deriving DecidableEq

namespace Payload

/-- The kind of content that a payload is declared to be, with the boundary between parts. -/
def contentType? (boundary : String) : Payload → Option String
  | empty => none
  | form _ => some "application/x-www-form-urlencoded"
  | upload .. => some ("multipart/form-data; boundary=" ++ boundary)

/-- A file name in the header of a part: quotes, backslashes and line breaks follow a backslash. -/
def escapedFilename (filename : String) : String :=
  String.ofList (filename.toList.flatMap fun c =>
    if c ∈ ['"', '\\', '\r', '\n'] then ['\\', c] else [c])

/-- The bytes of a payload, with the boundary between parts. -/
def bytes (boundary : String) : Payload → List UInt8
  | empty => []
  | form parameters => Utf8.encode (String.ofList (Percent.form parameters))
  | upload filename content =>
    let part (header : String) : String :=
      "--" ++ boundary ++ "\r\nContent-Disposition: form-data; " ++ header ++ "\r\n\r\n"
    Utf8.encode (part "name=\"filename\"" ++ filename ++ "\r\n" ++
        part ("name=\"file\"; filename=\"" ++ escapedFilename filename ++ "\"")) ++
      content ++ Utf8.encode ("\r\n--" ++ boundary ++ "--\r\n")

end Payload

/-! ## Requests -/

/-- A request that can be sent. -/
structure Request where
  method : Method
  /-- The address with its query, without user name and password. -/
  url : Url
  authorization : Option String
  /-- Whether the response may be compressed. -/
  compression : Bool
  payload : Payload
  deriving DecidableEq

namespace Request

/-- The headers of a request, with the boundary between the parts of an upload. -/
def headers (r : Request) (boundary : String) : SortedMap String :=
  let present (name : String) (value : Option String) : List (String × String) :=
    (value.map fun v => (name, v)).toList
  .ofList (("accept", "application/json") :: ("user-agent", "maas-client/0.1.0") ::
    (if r.compression then [("accept-encoding", "gzip")] else []) ++
    present "authorization" r.authorization ++
    present "content-type" (r.payload.contentType? boundary))

/-- Whether a header may hold a character: a tab, but no other control. -/
def isHeaderChar (c : Char) : Bool :=
  c == '\t' || (0x20 ≤ c.toNat && c.toNat != 0x7F)

/-- The credentials that an address names, as a header. -/
def basicAuthorization? (url : Url) : Option String := do
  let a ← url.authority
  if !a.hasUserInfo then none
  let username ← Percent.decodeText? a.username
  let password := (Percent.decodeText? a.password).getD ""
  let credentials := Base64.encode (Utf8.encode (username ++ ":" ++ password))
  return "Basic " ++ String.ofList credentials

/-- The error of an address to which nothing can be sent. -/
def unsendable (url : Url) : Error :=
  .http ("builder error for url (" ++ url.text ++ ")")

/-- The address to which a request is sent: with the parameters in its query, and without user name
and password. -/
def target (url : Url) (query : Parameters) : Url :=
  (if query = [] then url else url.addQuery query).withoutUserInfo

/-- Makes a request for an address. It needs a host, a header that can be written, and a scheme of
the web. -/
def make (method : Method) (url : Url) (query : Parameters) (header : Option String)
    (compression : Bool) (payload : Payload) : Except Error Request :=
  let sent := target url query
  if url.host?.isNone then .error (unsendable url)
  else if (header.map fun h => h.toList.all isHeaderChar) = some false then
    .error (.http "builder error")
  else if sent.scheme = "http" ∨ sent.scheme = "https" then
    .ok ⟨method, sent, header <|> basicAuthorization? url, compression, payload⟩
  else .error (unsendable sent)

/-- What a request that could be made is about. -/
theorem make_eq_ok {method : Method} {url : Url} {query : Parameters} {header : Option String}
    {compression : Bool} {payload : Payload} {r : Request}
    (h : make method url query header compression payload = .ok r) :
    url.host? ≠ none ∧ ((target url query).scheme = "http" ∨
      (target url query).scheme = "https") ∧
      r = ⟨method, target url query, header <|> basicAuthorization? url, compression, payload⟩ := by
  simp only [make] at h
  split at h
  · cases h
  · rename_i hhost
    split at h
    · cases h
    · split at h
      · rename_i hscheme
        exact ⟨by simpa using hhost, hscheme, (Except.ok.inj h).symm⟩
      · cases h

/-- A request that cannot be made fails in the way to the region. -/
theorem make_eq_error {method : Method} {url : Url} {query : Parameters} {header : Option String}
    {compression : Bool} {payload : Payload} {e : Error}
    (h : make method url query header compression payload = .error e) : ∃ text, e = .http text := by
  simp only [make] at h
  split at h
  · exact ⟨_, (Except.error.inj h).symm⟩
  · split at h
    · exact ⟨_, (Except.error.inj h).symm⟩
    · split at h
      · cases h
      · exact ⟨_, (Except.error.inj h).symm⟩

end Request

end RegionClient
