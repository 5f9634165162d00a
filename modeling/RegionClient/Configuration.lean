import RegionClient.Error
import RegionClient.Settings
import RegionClient.Url.Parse

set_option autoImplicit false

/-! # Configuration

How to reach a region controller, as it is written down: it can be read from a document and written
to one, and it can be checked. What is derived from it (address, version, settings) is derived anew
each time.
-/

namespace RegionClient

/-- How to reach a region controller. -/
structure Configuration where
  address : String
  apiVersion : String
  /-- The longest time for a request, in seconds. -/
  timeoutSeconds : UInt64
  maxRetries : UInt32
  /-- Whether responses may be compressed. -/
  compression : Bool
  deriving DecidableEq

namespace Configuration

/-- The configuration for an address, with the usual values for the rest. -/
def forAddress (address : String) : Configuration :=
  ⟨address, "2.0", 30, 3, true⟩

/-- The configuration for a controller on the same host. -/
def standard : Configuration :=
  forAddress "http://localhost:5240/MAAS/"

instance : Inhabited Configuration :=
  ⟨standard⟩

/-! ## Documents -/

/-- A number of retries. -/
def readRetries (value : Json) : Except TypeFault UInt32 :=
  (value.asNatural 32 "u32").map UInt32.ofNat

/-- A number of seconds. -/
def readSeconds (value : Json) : Except TypeFault UInt64 :=
  (value.asNatural 64 "u64").map UInt64.ofNat

/-- Reads a value that may be missing. -/
def readOr {α : Type} (read : Json → Except TypeFault α) (value : Option Json) (usual : α) :
    Except TypeFault α :=
  match value with
  | some v => read v
  | none => .ok usual

/-- Reads a configuration from an object. Its fields are read in ascending order; unknown ones do
not count, and only the address must be there. -/
def ofObject (value : Json) : Except TypeFault Configuration := do
  let usual := standard
  let apiVersion ← readOr Json.asText (value.get? "api_version") usual.apiVersion
  let address ← readOr (fun v => v.asText.map some) (value.get? "base_url") none
  let compression ← readOr Json.asBool (value.get? "enable_compression") usual.compression
  let maxRetries ← readOr readRetries (value.get? "max_retries") usual.maxRetries
  let timeoutSeconds ← readOr readSeconds (value.get? "request_timeout_secs") usual.timeoutSeconds
  match address with
  | some address => return ⟨address, apiVersion, timeoutSeconds, maxRetries, compression⟩
  | none => throw (.missingField "base_url")

/-- Reads a configuration from a list of its fields, which may end early after the address. -/
def ofList (items : List Json) : Except TypeFault Configuration := do
  let usual := standard
  let address ← match items[0]? with
    | some v => v.asText
    | none => throw (.wrongLength 0 "struct MaasClientConfig with 5 elements")
  let apiVersion ← readOr Json.asText items[1]? usual.apiVersion
  let timeoutSeconds ← readOr readSeconds items[2]? usual.timeoutSeconds
  let maxRetries ← readOr readRetries items[3]? usual.maxRetries
  let compression ← readOr Json.asBool items[4]? usual.compression
  if 5 < items.length then throw (.wrongLength items.length "fewer elements in array")
  return ⟨address, apiVersion, timeoutSeconds, maxRetries, compression⟩

/-- Reads a configuration from a document. -/
def ofJson (value : Json) : Except TypeFault Configuration :=
  match value with
  | .object _ => ofObject value
  | .list items => ofList items
  | other => .error (.wrongType other.shown "struct MaasClientConfig")

/-- The document of a configuration. -/
def toJson (c : Configuration) : Json :=
  .object [("api_version", .string c.apiVersion), ("base_url", .string c.address),
    ("enable_compression", .bool c.compression), ("max_retries", .integer c.maxRetries.toNat),
    ("request_timeout_secs", .integer c.timeoutSeconds.toNat)]

/-! ## Checking -/

/-- Whether the address is a URL. -/
def hasAddress (domains : DomainForm) (c : Configuration) : Bool :=
  (Url.parse domains c.address).toBool

/-- The numbers that are out of their range: up to ten retries, from one to 300 seconds. -/
def outOfRange (c : Configuration) : List String :=
  (if c.maxRetries ≤ 10 then [] else ["max_retries"]) ++
    (if 1 ≤ c.timeoutSeconds ∧ c.timeoutSeconds ≤ 300 then [] else ["request_timeout_secs"])

/-- The configuration for an address that must be a URL. -/
def ofAddress (domains : DomainForm) (address : String) : Except Error Configuration :=
  let c := forAddress address
  if c.hasAddress domains then .ok c else .error (.config (.invalidAddress address))

/-! ## What is derived -/

/-- The longest time for a request. -/
def timeout (c : Configuration) : Duration :=
  .ofSeconds c.timeoutSeconds

/-- The version of the interface. -/
def version (c : Configuration) : Except Error Version :=
  match Version.parse? c.apiVersion with
  | some v => .ok v
  | none => .error (.config (.version (.version c.apiVersion)))

/-- The address, completed by a slash, so that relative addresses lead beneath it. -/
def url (domains : DomainForm) (c : Configuration) : Except Error Url :=
  ((Url.parse domains c.address).map Url.closed).mapError fun fault => .config (.address fault)

/-- The settings of the connection, if the configuration passes its checks. -/
def settings (domains : DomainForm) (c : Configuration) : Except Error Settings :=
  if !c.hasAddress domains then .error (.config (.invalidAddress c.address))
  else if c.outOfRange ≠ [] then .error (.config (.outOfRange c.outOfRange))
  else
    .ok { Settings.standard with
      timeout := c.timeout
      retry := { RetryPolicy.standard with maxRetries := c.maxRetries }
      compression := c.compression }

end Configuration

end RegionClient
