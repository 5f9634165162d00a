import RegionClient.RetryPolicy

set_option autoImplicit false

/-! # Settings of the connection -/

namespace RegionClient

/-- How requests are made. -/
structure Settings where
  /-- The longest time from a request to the end of its response. -/
  timeout : Duration
  /-- The longest time until a connection stands. -/
  connectTimeout : Duration
  retry : RetryPolicy
  /-- Whether responses may be compressed. -/
  compression : Bool
  deriving DecidableEq

/-- Half a minute for a response, ten seconds for a connection, the
standard retries, compression. -/
def Settings.standard : Settings :=
  ⟨.ofSeconds 30, .ofSeconds 10, .standard, true⟩

instance : Inhabited Settings :=
  ⟨.standard⟩

end RegionClient
