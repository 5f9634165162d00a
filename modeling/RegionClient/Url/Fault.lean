set_option autoImplicit false

/-! # Faults of addresses

Why a text is no URL.
-/

namespace RegionClient

/-- What is wrong with an address. -/
inductive UrlFault where
  | relativeWithoutBase
  | relativeToPlain
  | emptyHost
  | invalidPort
  | invalidIpv4
  | invalidIpv6
  | invalidDomain
  | invalidHostCharacter
  deriving DecidableEq

/-- The wording of a fault. -/
def UrlFault.message : UrlFault → String
  | relativeWithoutBase => "relative URL without a base"
  | relativeToPlain => "relative URL with a cannot-be-a-base base"
  | emptyHost => "empty host"
  | invalidPort => "invalid port number"
  | invalidIpv4 => "invalid IPv4 address"
  | invalidIpv6 => "invalid IPv6 address"
  | invalidDomain => "invalid international domain name"
  | invalidHostCharacter => "invalid domain character"

end RegionClient
