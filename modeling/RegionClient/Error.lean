import RegionClient.Base64
import RegionClient.Json.Decode
import RegionClient.Json.Typed
import RegionClient.Schema.Fault
import RegionClient.SystemId
import RegionClient.Url.Fault
import RegionClient.Version.Basic

set_option autoImplicit false

/-! # Errors

Every failure of the library is one of the kinds of `Error`, and each says what it needs to know
about its cause. The wording is in the `message` functions alone.

* `Rejection`: why an argument is refused before anything is sent.
* `ReadFault`: why a document cannot be read, with the route to the culprit as nested `inside`.
* `Error`: the kinds of failure, the classification of responses (`Error.ofStatus`), and which
  failures are worth another attempt (`Error.isRetryable`).
-/

namespace RegionClient

/-! ## Rejections -/

/-- Why an argument is refused locally. -/
inductive Rejection where
  | text (message : String)
  | version (input : String)
  | systemId (input : String)
  | interfaceLabelMissing
  | interfaceSpaceMissing (label : String)
  | interfaceLabelRepeated (label : String)
  | excludedSpaceEmpty
  | storageSizeZero (label : String)
  | storageTagEmpty (label : String)
  | storageLabelRepeated (label : String)
  | macAddressesMissing
  | interfaceNameMissing
  | macAddressMissing
  | subnetAndVlanMissing
  | vlanDisagrees (cidr : String) (vlan requested : Int64)
  | nameMissing
  | linkModeUnknown (mode : String)
  | addressOutsideStaticMode (mode : String)
  | gatewayOutsideAutoMode (mode : String)
  | filenameMissing
  | uploadWithoutSource
  | uploadWithTwoSources
  | interfaceNotLinked (interface cidr : String)
  | unreadable (path reason : String)
  | contentMissing (filename : String)
  deriving DecidableEq

/-- The wording of a rejection. -/
def Rejection.message : Rejection → String
  | text message => message
  | version input => "invalid API version " ++ Text.quoted input
  | systemId input => "invalid system id " ++ Text.quoted input
  | interfaceLabelMissing => "interface spec: missing label"
  | interfaceSpaceMissing label => "interface spec " ++ Text.quoted label ++ ": missing space"
  | interfaceLabelRepeated label => "duplicate interface label " ++ Text.quoted label
  | excludedSpaceEmpty => "empty not_space value"
  | storageSizeZero label => "storage spec " ++ Text.quoted label ++ ": size must be positive"
  | storageTagEmpty label => "storage spec " ++ Text.quoted label ++ ": empty tag"
  | storageLabelRepeated label => "duplicate storage label " ++ Text.quoted label
  | macAddressesMissing => "at least one MAC address must be specified"
  | interfaceNameMissing => "missing interface name"
  | macAddressMissing => "missing MAC address"
  | subnetAndVlanMissing => "missing subnet and VLAN, one must be specified"
  | vlanDisagrees cidr vlan requested =>
    "given subnet " ++ Text.quoted cidr ++ " on VLAN " ++ Numeral.ofInt vlan.toInt ++
      ", but VLAN " ++ Numeral.ofInt requested.toInt ++ " requested"
  | nameMissing => "missing name"
  | linkModeUnknown mode => "unknown link mode " ++ Text.quoted mode
  | addressOutsideStaticMode mode =>
    "setting an IP address is only valid in static mode, not " ++ mode
  | gatewayOutsideAutoMode mode =>
    "specifying default gateway is only valid in auto or static mode, not " ++ mode
  | filenameMissing => "missing filename"
  | uploadWithoutSource => "missing content or path, one must be specified"
  | uploadWithTwoSources => "both content and path specified, only one allowed"
  | interfaceNotLinked interface cidr =>
    "interface " ++ Text.quoted interface ++ " is not linked to subnet " ++ Text.quoted cidr
  | unreadable path reason => "cannot read " ++ path ++ ": " ++ reason
  | contentMissing filename => "file " ++ Text.quoted filename ++ " has no inline content"

/-- The wording of a rejection as an error of its own. -/
def Rejection.asError (r : Rejection) : String :=
  "Not valid: " ++ r.message

/-! ## Read faults -/

/-- Why a document cannot be read. -/
inductive ReadFault where
  | text (message : String)
  | document (error : Json.DecodeError)
  | typed (fault : TypeFault)
  | schema (fault : SchemaFault)
  | rejected (reason : Rejection)
  | base64 (fault : Base64.Fault)
  /-- An update is for something else. -/
  | identity (what expected found : String)
  /-- A batch has the wrong number of items. -/
  | batch (what : String) (expected found : Nat)
  /-- A match names something that the machine does not have. -/
  | unknownId (what : String) (id : Int64)
  /-- The fault is inside something that is read. -/
  | inside (context : String) (fault : ReadFault)
  deriving DecidableEq

/-- The wording of a read fault: the route to the culprit, then what is wrong with it. -/
def ReadFault.message : ReadFault → String
  | text message => message
  | document error => error.message
  | typed fault => fault.message
  | schema fault => fault.message
  | rejected reason => reason.asError
  | base64 fault => fault.message
  | identity what expected found => "expected " ++ what ++ " " ++ expected ++ ", got " ++ found
  | batch what expected found =>
    "expected " ++ Numeral.ofNat expected ++ " " ++ what ++ ", got " ++ Numeral.ofNat found
  | unknownId what id => "no " ++ what ++ " with id " ++ Numeral.ofInt id.toInt ++ " on machine"
  | inside context fault => context ++ ": " ++ fault.message

/-! ## Configuration and endpoint faults -/

/-- Why a configuration cannot be used. -/
inductive ConfigFault where
  | text (message : String)
  /-- The validated configuration has a base address that is no URL. -/
  | invalidAddress (address : String)
  | version (reason : Rejection)
  | address (fault : UrlFault)
  | baseAddress (address : String) (fault : UrlFault)
  /-- Fields of the configuration are out of their range. -/
  | outOfRange (fields : List String)
  deriving DecidableEq

/-- The wording of a configuration fault. -/
def ConfigFault.message : ConfigFault → String
  | text message => message
  | invalidAddress shown =>
    "Invalid configuration: base_url: Validation error: url [\x7b\"value\": String(" ++
      Text.quoted shown ++ ")\x7d]"
  | version reason => "Invalid API version: " ++ reason.asError
  | address fault => "Invalid MAAS URL: " ++ fault.message
  | baseAddress shown fault =>
    "Invalid MAAS base URL \x60" ++ shown ++ "\x60: " ++ fault.message
  | outOfRange fields =>
    Text.joined "\n" (fields.map (· ++ ": Validation error: range"))

/-- Why an address cannot be requested. -/
inductive EndpointFault where
  | text (message : String)
  | url (fault : UrlFault)
  | path (path : String) (fault : UrlFault)
  | cannotExtend (base : String)
  deriving DecidableEq

/-- The wording of an endpoint fault. -/
def EndpointFault.message : EndpointFault → String
  | text message => message
  | url fault => fault.message
  | path shown fault => "Invalid MAAS path \x60" ++ shown ++ "\x60: " ++ fault.message
  | cannotExtend base => "cannot extend " ++ base

/-! ## Errors -/

/-- The kinds of failure. -/
inductive Error where
  /-- A document does not have the expected form. -/
  | deserialization (fault : ReadFault)
  /-- No reader is registered for a version. -/
  | unsupportedVersion (typeName : String) (version : Version)
  /-- An argument is refused before anything is sent. -/
  | notValid (reason : Rejection)
  | notFound (body : String)
  /-- No machine satisfies the constraints. -/
  | noMatch (body : String)
  | permission (body : String)
  | badRequest (body : String)
  /-- The request conflicts with the state of the resource. -/
  | cannotComplete (text : String)
  /-- Any other response that is no success. -/
  | unexpected (status : Nat) (body : String)
  | serviceUnavailable (text : String)
  /-- The request could not be made or its response not be read. -/
  | http (text : String)
  | timeout (text : String)
  | config (fault : ConfigFault)
  | invalidEndpoint (fault : EndpointFault)
  deriving DecidableEq

namespace Error

/-- The wording of an error. -/
def message : Error → String
  | deserialization fault => "Deserialization error: " ++ fault.message
  | unsupportedVersion typeName version =>
    "Unsupported version: no " ++ typeName ++ " read function for version " ++ version.text
  | notValid reason => reason.asError
  | notFound body => "Not found: " ++ body
  | noMatch body => "No match: " ++ body
  | permission body => "Permission denied: " ++ body
  | badRequest body => "Bad request: " ++ body
  | cannotComplete text => "Cannot complete: " ++ text
  | unexpected status body => "Unexpected response " ++ Numeral.ofNat status ++ ": " ++ body
  | serviceUnavailable text => "Service unavailable: " ++ text
  | http text => "HTTP request failed: " ++ text
  | timeout text => "Timeout: " ++ text
  | config fault => "Configuration error: " ++ fault.message
  | invalidEndpoint fault => "Invalid endpoint: " ++ fault.message

/-- The code of an error's kind. -/
def code : Error → String
  | deserialization _ => "DESERIALIZATION_ERROR"
  | unsupportedVersion .. => "UNSUPPORTED_VERSION"
  | notValid _ => "NOT_VALID"
  | notFound _ => "NOT_FOUND"
  | noMatch _ => "NO_MATCH"
  | permission _ => "PERMISSION"
  | badRequest _ => "BAD_REQUEST"
  | cannotComplete _ => "CANNOT_COMPLETE"
  | unexpected .. => "UNEXPECTED"
  | serviceUnavailable _ => "SERVICE_UNAVAILABLE"
  | http _ => "HTTP_ERROR"
  | timeout _ => "TIMEOUT"
  | config _ => "CONFIG_ERROR"
  | invalidEndpoint _ => "INVALID_ENDPOINT"

/-- Whether another attempt may succeed. -/
def isRetryable : Error → Bool
  | serviceUnavailable _ | timeout _ | http _ => true
  | _ => false

/-- Whether the error shows that client and server disagree about the interface. -/
def shouldLog : Error → Bool
  | deserialization _ | unsupportedVersion .. | unexpected .. => true
  | _ => false

/-- Puts a context around a read fault. Other errors pass unchanged, so that their cause stays in
front. -/
def annotate (context : String) : Error → Error
  | deserialization fault => deserialization (.inside context fault)
  | other => other

/-- The error of a schema fault. -/
def schema (fault : SchemaFault) : Error :=
  deserialization (.schema fault)

/-- The standard phrase of a status, for those that a message shows. -/
def statusPhrase : Nat → String
  | 429 => "Too Many Requests"
  | 502 => "Bad Gateway"
  | 503 => "Service Unavailable"
  | _ => "Gateway Timeout"

/-- The error of a response that is no success. -/
def ofStatus (status : Nat) (body : String) : Error :=
  match status with
  | 400 => badRequest body
  | 401 | 403 => permission body
  | 404 => notFound body
  | 409 => cannotComplete body
  | 429 | 502 | 503 | 504 =>
    serviceUnavailable ("MAAS temporarily unavailable (" ++ Numeral.ofNat status ++ " " ++
      statusPhrase status ++ "): " ++ body)
  | _ => unexpected status body

/-- No class of responses is about the arguments. -/
theorem ofStatus_ne_notValid (status : Nat) (body : String) (reason : Rejection) :
    ofStatus status body ≠ notValid reason := by
  unfold ofStatus
  intro h
  split at h <;> cases h

end Error

/-- Reads a version, or rejects the text. -/
def Version.parse (input : String) : Except Error Version :=
  match Version.parse? input with
  | some v => .ok v
  | none => .error (.notValid (.version input))

/-- Reads a system id, or rejects the text. -/
def SystemId.parse (input : String) : Except Error SystemId :=
  match SystemId.parse? input with
  | some id => .ok id
  | none => .error (.notValid (.systemId input))

/-- Reads a version from a document that holds its text. -/
def Version.ofJson (value : Json) : Except Error Version := do
  let s ← value.asText.mapError fun fault => .deserialization (.typed fault)
  match Version.parse? s with
  | some v => return v
  | none => throw (.deserialization (.rejected (.version s)))

/-- Reads a system id from a document that holds its text. -/
def SystemId.ofJson (value : Json) : Except Error SystemId := do
  let s ← value.asText.mapError fun fault => .deserialization (.typed fault)
  match SystemId.parse? s with
  | some id => return id
  | none => throw (.deserialization (.rejected (.systemId s)))

end RegionClient
