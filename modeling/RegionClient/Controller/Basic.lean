import RegionClient.Reader
import RegionClient.Resource.VersionInfo
import RegionClient.Transport.InPlace

set_option autoImplicit false

/-! # Controllers

A controller is the client's end of a connection to a region. `Controller.send` makes a request as
often as the retry policy wants: the address is found and the request counted and authorized anew
for each attempt, and only a failure that another attempt may mend is followed by one.
-/

namespace RegionClient

/-- Gives the credentials for the request with a number, as a header. They need not be the same for
two requests that differ in nothing else. -/
abbrev Authorizer : Type :=
  Nat → Method → Url → Except Error String

/-- The same credentials for every request. -/
def Authorizer.fixed (header : String) : Authorizer :=
  fun _ _ _ => .ok header

/-- How fixed credentials show themselves, which is not at all. -/
def Authorizer.shown : String :=
  "StaticAuthorizer \x7b header: \"[REDACTED]\" \x7d"

/-- A connection to a region. -/
structure Controller where
  /-- The address beneath which the region serves its interface. -/
  address : Url
  /-- The version of the interface that is spoken. -/
  version : Version
  retry : RetryPolicy
  /-- Whether responses may be compressed. -/
  compression : Bool
  authorizer : Option Authorizer
  /-- The ASCII form of the domain names in addresses. -/
  domains : DomainForm
  transport : Transport

/-- A request as an operation describes it. The path is relative to the address of the controller,
or is one that the region gave. -/
structure Call where
  method : Method
  path : String
  query : Parameters
  payload : Payload
  deriving DecidableEq

namespace Call

/-- Asks for what is at a path. -/
def get (path : String) (query : Parameters) : Call :=
  ⟨.get, path, query, .empty⟩

/-- Lets an operation act on what is at a path. -/
def post (path : String) (query parameters : Parameters) : Call :=
  ⟨.post, path, query, .form parameters⟩

end Call

namespace Controller

/-! ## Addresses -/

/-- The path of a part of the interface, relative to the address. -/
def apiPath (c : Controller) (resource : String) : String :=
  "api/" ++ Numeral.ofNat c.version.major.toNat ++ "." ++ Numeral.ofNat c.version.minor.toNat ++
    "/" ++ resource

/-- The address of a path. -/
def endpoint (c : Controller) (path : String) : Except Error Url :=
  (c.address.join c.domains path).mapError fun fault => .invalidEndpoint (.path path fault)

/-! ## Sending -/

/-- The credentials for the request with a number, if there is someone to give them. -/
def authorize (c : Controller) (number : Nat) (method : Method) (url : Url) :
    Except Error (Option String) :=
  match c.authorizer with
  | none => .ok none
  | some authorizer => (authorizer number method url).map some

/-- The request of a call at an address, with credentials. -/
def request (c : Controller) (call : Call) (url : Url) (header : Option String) :
    Except Error Request :=
  Request.make call.method url call.query header c.compression call.payload

/-- Hands a request to the transport, if it could be made. -/
def submit (c : Controller) : Except Error Request → Dialogue Attempt
  | .error e => return .failed e none
  | .ok request => do
    let x ← .exchange c.transport request
    return x.attempt

/-- Sends a request once. -/
def attempt (c : Controller) (call : Call) : Dialogue Attempt := do
  let url ← .ofExcept (c.endpoint call.path)
  let number ← Dialogue.count
  let header ← .ofExcept (c.authorize number call.method url)
  c.submit (c.request call url header)

/-- Sends a request until it succeeds or fails for good, with at most `retries` more attempts after
the one with number `number`. -/
def sendFrom (c : Controller) (call : Call) : Nat → UInt32 → Dialogue (List UInt8)
  | retries, number => do
    match ← c.attempt call with
    | .body bytes => return bytes
    | .broken e => Dialogue.fail e
    | .failed e hint =>
      match retries with
      | 0 => Dialogue.fail e
      | retries + 1 =>
        if e.isRetryable then
          Dialogue.wait (c.retry.delayWithHint (number + 1) hint)
          c.sendFrom call retries (number + 1)
        else Dialogue.fail e

/-- Sends a request and gives the body of the response. -/
def send (c : Controller) (call : Call) : Dialogue (List UInt8) :=
  c.sendFrom call c.retry.maxRetries.toNat 0

/-- The document in the body of a response for a path; an empty body holds null. -/
def document (path : String) (bytes : List UInt8) : Except Error Json :=
  if bytes = [] then .ok .null
  else (Json.decode bytes).mapError fun e =>
    .deserialization (.inside ("response for \x60" ++ path ++ "\x60") (.document e))

/-- Sends a request and gives the document in the response. -/
def sendForDocument (c : Controller) (call : Call) : Dialogue Json := do
  let bytes ← c.send call
  .ofExcept (document call.path bytes)

/-- Sends a request and reads the response in the version of the interface. -/
def sendAndRead {α : Type} (c : Controller) (call : Call)
    (read : Version → Json → Except Error α) : Dialogue α := do
  let value ← c.sendForDocument call
  .ofExcept (read c.version value)

/-- Lists what is at a part of the interface. -/
def list {α : Type} (c : Controller) (reader : Reader α) (resource : String)
    (query : Parameters) : Dialogue (List α) :=
  c.sendAndRead (.get (c.apiPath resource) query) reader.readList

/-- Deletes what is at a path. -/
def delete (c : Controller) (path : String) : Dialogue Unit := do
  let _ ← c.send ⟨.delete, path, [], .empty⟩
  return ()

end Controller

end RegionClient
