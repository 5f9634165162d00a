import RegionClient.Text.Numeral

set_option autoImplicit false

/-! # Base 64

Bytes as texts in the standard alphabet, with the padding that fills the last group of four.

Decoding takes whole blocks of eight symbols as long as more follow; the last block alone may be
padded. What is refused, and at which place, follows from that order.
-/

namespace RegionClient.Base64

/-! ## Decoding -/

/-- Why a text is not in base 64. -/
inductive Fault where
  | invalidByte (byte : UInt8) (offset : Nat)
  | invalidLastSymbol (byte : UInt8) (offset : Nat)
  | invalidLength
  | invalidPadding
  deriving DecidableEq

/-- The wording of a fault. -/
def Fault.message : Fault → String
  | invalidByte byte offset =>
    "Invalid byte " ++ Numeral.ofNat byte.toNat ++ ", offset " ++ Numeral.ofNat offset ++ "."
  | invalidLastSymbol byte offset =>
    "Invalid last symbol " ++ Numeral.ofNat byte.toNat ++ ", offset " ++ Numeral.ofNat offset ++ "."
  | invalidLength => "Encoded text cannot have a 6-bit remainder."
  | invalidPadding => "Invalid padding"

/-- The padding symbol. -/
def pad : UInt8 :=
  0x3D

/-- The six bits of a symbol. -/
def sextet? (b : UInt8) : Option Nat :=
  let n := b.toNat
  if 0x41 ≤ n ∧ n ≤ 0x5A then some (n - 0x41)
  else if 0x61 ≤ n ∧ n ≤ 0x7A then some (n - 0x61 + 26)
  else if 0x30 ≤ n ∧ n ≤ 0x39 then some (n - 0x30 + 52)
  else if n = 0x2B then some 62
  else if n = 0x2F then some 63
  else none

/-- The symbols of a text that may not be padded, which begins at `offset`. -/
def symbols (offset : Nat) : List UInt8 → Except Fault (List Nat)
  | [] => .ok []
  | b :: rest => do
    match sextet? b with
    | none => throw (.invalidByte b offset)
    | some s =>
      let more ← symbols (offset + 1) rest
      return s :: more

/-- The symbols of the last block, which begins at `start`, and the number of padding symbols after
them. Padding may stand only in the second half of a group of four, and nothing else
may follow it. -/
def lastSymbols (start : Nat) : Nat → Option Nat → List UInt8 → Except Fault (List Nat × Nat)
  | place, padding, [] => .ok ([], (padding.map (place - ·)).getD 0)
  | place, padding, b :: rest =>
    if b = pad then
      if place % 4 < 2 then .error (.invalidByte b (start + place))
      else lastSymbols start (place + 1) (some (padding.getD place)) rest
    else
      match padding with
      | some first => .error (.invalidByte pad (start + first))
      | none => do
        match sextet? b with
        | none => throw (.invalidByte b (start + place))
        | some s =>
          let (more, count) ← lastSymbols start (place + 1) none rest
          return (s :: more, count)

/-- The number whose digits in base 64 are the given symbols. -/
def number (symbols : List Nat) : Nat :=
  symbols.foldl (fun n s => n * 64 + s) 0

/-- The last `count` bytes of a number, the highest first. -/
def bytesOf (count n : Nat) : List UInt8 :=
  (List.range count).reverse.map fun i => UInt8.ofNat (n / 256 ^ i)

/-- The bytes of a full group of symbols, and of each that follows it. -/
def groups : List Nat → List UInt8
  | a :: b :: c :: d :: rest => bytesOf 3 (number [a, b, c, d]) ++ groups rest
  | _ => []

/-- The bytes of the last symbols, which are fewer than four; the bits that fill no byte must be
zero. -/
def remainder (input : List UInt8) (last : Nat) (symbols : List Nat) : Except Fault (List UInt8) :=
  let bits := symbols.length * 6 % 8
  let n := number symbols
  if n % 2 ^ bits = 0 then .ok (bytesOf (symbols.length * 6 / 8) (n / 2 ^ bits))
  else .error (.invalidLastSymbol ((input[last]?).getD 0) last)

/-- Decodes a text in base 64. A text that leaves one symbol over is refused at once, for its last
character if that is no symbol, and for its length if it is one. -/
def decode (input : List UInt8) : Except Fault (List UInt8) := do
  if input.length % 4 = 1 then
    let last := (input.getLast?).getD pad
    if last ≠ pad ∧ (sextet? last).isNone then throw (.invalidByte last (input.length - 1))
    else throw .invalidLength
  let start := (input.length - 1) / 8 * 8
  let full ← symbols 0 (input.take start)
  let (tail, padding) ← lastSymbols start 0 none (input.drop start)
  if (tail.length + padding) % 4 ≠ 0 then throw .invalidPadding
  let whole := tail.length / 4 * 4
  let rest ← remainder input (start + tail.length - 1) (tail.drop whole)
  return groups full ++ groups (tail.take whole) ++ rest

/-! ## Encoding -/

/-- The symbol of six bits. -/
def symbol (n : Nat) : Char :=
  if n < 26 then Char.ofNat (0x41 + n)
  else if n < 52 then Char.ofNat (0x61 + (n - 26))
  else if n < 62 then Char.ofNat (0x30 + (n - 52))
  else if n = 62 then '+'
  else '/'

/-- Encodes bytes, three in a group of four symbols. -/
def encode : List UInt8 → List Char
  | a :: b :: c :: rest =>
    let n := (a.toNat * 256 + b.toNat) * 256 + c.toNat
    [symbol (n / 64 ^ 3), symbol (n / 64 ^ 2 % 64), symbol (n / 64 % 64), symbol (n % 64)] ++
      encode rest
  | [a, b] =>
    let n := (a.toNat * 256 + b.toNat) * 4
    [symbol (n / 64 ^ 2), symbol (n / 64 % 64), symbol (n % 64), '=']
  | [a] =>
    let n := a.toNat * 16
    [symbol (n / 64), symbol (n % 64), '=', '=']
  | [] => []

end RegionClient.Base64
