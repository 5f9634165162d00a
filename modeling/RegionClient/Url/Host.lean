import RegionClient.Text.Numeral
import RegionClient.Url.Domain
import RegionClient.Url.Fault
import RegionClient.Url.Percent

set_option autoImplicit false

/-! # Hosts

A host is a name or an address. Where a scheme knows domain names, a host that ends in a number is
an address of 32 bits, written in up to four numbers, and a host in brackets is an address of 128
bits.
-/

namespace RegionClient

/-- What a URL is served by. -/
inductive Host where
  /-- A name, which may be empty. -/
  | name (text : String)
  | ipv4 (address : Nat)
  | ipv6 (groups : List Nat)
  deriving DecidableEq

namespace Host

/-! ## Addresses of 32 bits -/

/-- A number in base 10, or in base 16 after `0x`, or in base 8 after `0`. -/
def addressNumber? (s : List Char) : Option Nat :=
  let inBase (base : Nat) (digits : List Char) : Option Nat :=
    (digits.mapM fun c => (Percent.hexValue? (UInt8.ofNat c.toNat)).filter (· < base)).map
      (·.foldl (fun n d => base * n + d) 0)
  match s with
  | [] => none
  | '0' :: 'x' :: digits => inBase 16 digits
  | '0' :: 'X' :: digits => inBase 16 digits
  | '0' :: d :: digits => inBase 8 (d :: digits)
  | digits => inBase 10 digits

/-- The parts of a name between points, without the empty part after a point at the end. -/
def parts (s : List Char) : List (List Char) :=
  let all := Text.pieces (· == '.') s
  if 1 < all.length ∧ all.getLast? = some [] then all.dropLast else all

/-- Whether the last part of a name is a number. -/
def endsInNumber (s : List Char) : Bool :=
  match (parts s).getLast? with
  | none => false
  | some [] => false
  | some last => last.all Char.isDigit || (addressNumber? last).isSome

/-- The address of up to four numbers. The last fills all the bytes that are left, and each before
it one. -/
def ofNumbers? (numbers : List Nat) : Option Nat :=
  match numbers.reverse with
  | [] => none
  | last :: before =>
    if 4 < numbers.length ∨ before.any (255 < ·) ∨ 256 ^ (5 - numbers.length) ≤ last then none
    else
      let high := before.reverse.foldl (fun n b => 256 * n + b) 0
      some (last + high * 256 ^ (5 - numbers.length))

/-- Reads an address of 32 bits. -/
def ipv4? (s : List Char) : Option Nat :=
  ((parts s).mapM addressNumber?).bind ofNumbers?

/-- The written form of an address of 32 bits. -/
def ipv4Text (address : Nat) : String :=
  Text.joined "." ([3, 2, 1, 0].map fun i => Numeral.ofNat (address / 256 ^ i % 256))

/-! ## Addresses of 128 bits -/

/-- A byte in decimal digits without leading zeros. -/
def byte? (s : List Char) : Option Nat :=
  if 1 < s.length ∧ s.head? = some '0' then none
  else (Numeral.natural? s).filter (· ≤ 255)

/-- The two groups of an address of 32 bits inside one of 128 bits. -/
def tailGroups? (s : List Char) : Option (List Nat) := do
  match ← (Text.pieces (· == '.') s).mapM byte? with
  | [a, b, c, d] => some [256 * a + b, 256 * c + d]
  | _ => none

/-- The number of a run of hexadecimal digits. -/
def hexNumber (digits : List Char) : Nat :=
  digits.foldl (fun n c => 16 * n + ((Percent.hexValue? (UInt8.ofNat c.toNat)).getD 0)) 0

/-- Whether a character is a hexadecimal digit. -/
def isHexDigit (c : Char) : Bool :=
  c.toNat < 128 && (Percent.hexValue? (UInt8.ofNat c.toNat)).isSome

/-- Reads up to a number of groups after those that are there, of which one may be left out once, by
a colon in its place: all groups, and where the gap is. -/
def groups? : Nat → Option Nat → List Nat → List Char → Option (List Nat × Option Nat)
  | _, gap, groups, [] => some (groups, gap)
  | 0, _, _, _ :: _ => none
  | left + 1, gap, groups, ':' :: s =>
    if gap.isSome then none else groups? left (some (groups.length + 1)) (groups ++ [0]) s
  | left + 1, gap, groups, s =>
    let digits := (s.take 4).takeWhile isHexDigit
    match s.drop digits.length with
    | [] => some (groups ++ [hexNumber digits], gap)
    | ':' :: [] => none
    | ':' :: rest => groups? left gap (groups ++ [hexNumber digits]) rest
    | '.' :: _ =>
      if digits = [] ∨ left = 0 then none
      else (tailGroups? s).map fun tail => (groups ++ tail, gap)
    | _ => none

/-- Reads an address of 128 bits. The gap stands for as many groups of zero as are missing. -/
def ipv6? (s : List Char) : Option (List Nat) := do
  let (groups, gap) ← match s with
    | ':' :: ':' :: rest => groups? 7 (some 1) [0] rest
    | ':' :: _ => none
    | [] => none
    | _ => groups? 8 none [] s
  match gap with
  | some place =>
    some (groups.take place ++ List.replicate (8 - groups.length) 0 ++ groups.drop place)
  | none => if groups.length = 8 then some groups else none

/-- How many groups from a place on are zero. -/
def zerosFrom (groups : List Nat) (place : Nat) : Nat :=
  ((groups.drop place).takeWhile (· == 0)).length

/-- The place of the first among the longest runs of zeros. -/
def longestRun (groups : List Nat) : Nat :=
  (List.range groups.length).foldl
    (fun best place => if zerosFrom groups best < zerosFrom groups place then place else best) 0

/-- Groups with colons between them. -/
def groupsText (groups : List Nat) : String :=
  Text.joined ":" (groups.map fun g => String.ofList (Numeral.hexadecimal g))

/-- The written form of an address of 128 bits; the longest run of zeros is left out, if it is more
than one. -/
def ipv6Text (groups : List Nat) : String :=
  let place := longestRun groups
  let count := zerosFrom groups place
  if count < 2 then groupsText groups
  else groupsText (groups.take place) ++ "::" ++ groupsText (groups.drop (place + count))

/-! ## Hosts -/

/-- The written form of a host. -/
def text : Host → String
  | name s => s
  | ipv4 address => ipv4Text address
  | ipv6 groups => "[" ++ ipv6Text groups ++ "]"

/-- Whether the host is an empty name. -/
def isEmpty (h : Host) : Bool :=
  h == name ""

/-- Reads a host in brackets; the text begins with the first of them. -/
def bracketed (s : List Char) : Except UrlFault Host :=
  match (if s.getLast? = some ']' then ipv6? (s.drop 1).dropLast else none) with
  | some groups => .ok (ipv6 groups)
  | none => .error .invalidIpv6

/-- Reads a domain name, which may be percent-encoded. -/
def domain? (domains : DomainForm) (s : List Char) : Option (List Char) :=
  (Percent.decodeText? (String.ofList s)).bind fun t => domains t.toList

/-- Reads the host of a scheme that knows domain names. -/
def parse (domains : DomainForm) (s : List Char) : Except UrlFault Host :=
  if s.head? = some '[' then bracketed s
  else
    match domain? domains s with
    | none => .error .invalidDomain
    | some [] => .error .emptyHost
    | some d =>
      if endsInNumber d then
        match ipv4? d with
        | some address => .ok (ipv4 address)
        | none => .error .invalidIpv4
      else .ok (name (String.ofList d))

/-- Whether no host has a character. -/
def isForbidden (c : Char) : Bool :=
  c ∈ ['\x00', '\t', '\n', '\r', ' ', '#', '/', ':', '<', '>', '?', '@', '[', '\\', ']', '^', '|']

/-- Reads the host of a scheme that knows nothing of domain names. -/
def parsePlain (s : List Char) : Except UrlFault Host :=
  if s.head? = some '[' then bracketed s
  else if s.any isForbidden then .error .invalidHostCharacter
  else .ok (name (String.ofList (Percent.encode Percent.isControl s)))

end Host

end RegionClient
