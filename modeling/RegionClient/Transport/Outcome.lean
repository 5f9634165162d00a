import RegionClient.RetryPolicy
import RegionClient.Transport.Request

set_option autoImplicit false

/-! # Outcomes

What becomes of a request: a response, or one of the ways in which there is none. A transport
decides on it, and may take into account all that was exchanged before.
-/

namespace RegionClient

/-- A complete response. -/
structure Response where
  status : Nat
  /-- The wait that the server asks for before another attempt. -/
  retryAfter : Option String
  body : List UInt8
  deriving DecidableEq

/-- What becomes of a request. -/
inductive Outcome where
  | response (r : Response)
  /-- A response begins, and its body breaks off. -/
  | truncated
  /-- No connection is made. -/
  | refused
  /-- The time for a response is over. -/
  | timedOut
  /-- The connection is closed before a response. -/
  | dropped
  deriving DecidableEq

/-- A request with its outcome. -/
structure Exchange where
  request : Request
  outcome : Outcome
  deriving DecidableEq

/-- Decides what becomes of a request after earlier exchanges. -/
abbrev Transport : Type :=
  List Exchange → Request → Outcome

/-! ## Attempts -/

/-- What an attempt comes to. -/
inductive Attempt where
  /-- The body of a response that reports success. -/
  | body (bytes : List UInt8)
  /-- A failure after which another attempt may be made, if its kind allows, with the wait that the
  server asks for. -/
  | failed (error : Error) (hint : Option Duration)
  /-- A failure that is final whatever its kind. -/
  | broken (error : Error)
  deriving DecidableEq

/-- Whether a response reports success. -/
def Response.isSuccess (r : Response) : Bool :=
  200 ≤ r.status && r.status < 300

/-- The wait that a response asks for. -/
def Response.hint? (r : Response) : Option Duration :=
  (r.retryAfter.bind RetryPolicy.hintedSeconds?).map Duration.ofSeconds

/-- What a response means for the attempt that it answers. Success without content has an empty
body. -/
def Response.attempt (r : Response) : Attempt :=
  if r.isSuccess then .body (if r.status = 204 then [] else r.body)
  else .failed (.ofStatus r.status (Utf8.decodeLossy r.body)) r.hint?

/-- The wording of a request that got no response. -/
def Request.unanswered (r : Request) : String :=
  "error sending request for url (" ++ r.url.text ++ ")"

/-- What an outcome means for the attempt that it ends. -/
def Exchange.attempt (x : Exchange) : Attempt :=
  match x.outcome with
  | .response r => r.attempt
  | .truncated =>
    .broken (.http "Failed to read MAAS response body: error decoding response body")
  | .refused => .failed (.serviceUnavailable x.request.unanswered) none
  | .timedOut => .failed (.timeout x.request.unanswered) none
  | .dropped => .failed (.http x.request.unanswered) none

end RegionClient
