set_option autoImplicit false

/-! # Decimal numerals

Reading and writing of integers, and the reading of decimal fractions with an exponent. All of it is
ASCII: no other digit counts, and neither blanks nor separators are part of a numeral.

* `natural?` wants digits only; `unsigned?` also takes a leading plus; `signed?` takes either sign.
  The last two refuse what lies outside their range.
* `decimal?` reads `1`, `-1.50`, `.5`, `2.` and `1e-3`, exactly, as digits and a power of ten.
-/

-- The powers of numbers are those of the core library, also where others are imported.
attribute [instance (10000), default_instance 10000] instPowNat

namespace RegionClient.Numeral

/-! ## Writing -/

/-- The shortest decimal numeral of a natural number. -/
def ofNat (n : Nat) : String :=
  String.ofList (Nat.toDigits 10 n)

/-- The shortest decimal numeral of an integer; only a negative one has a sign. -/
def ofInt : Int → String
  | .ofNat n => ofNat n
  | .negSucc n => "-" ++ ofNat (n + 1)

/-- The lower-case hexadecimal numeral of a natural number. -/
def hexadecimal (n : Nat) : List Char :=
  Nat.toDigits 16 n

/-! ## Reading -/

/-- The number that a run of digits stands for. -/
def value (digits : List Char) : Nat :=
  digits.foldl (fun n d => 10 * n + (d.toNat - 48)) 0

/-- Reads a run of digits, at least one. -/
def natural? (s : List Char) : Option Nat :=
  if !s.isEmpty && s.all Char.isDigit then some (value s) else none

/-- Reads an integer with an optional sign. -/
def integer? : List Char → Option Int
  | '-' :: s => (natural? s).map fun n => -(n : Int)
  | '+' :: s => (natural? s).map fun n => (n : Int)
  | s => (natural? s).map fun n => (n : Int)

/-- Reads a natural number below `2 ^ bits`, with an optional plus. -/
def unsigned? (bits : Nat) (s : List Char) : Option Nat :=
  let digits := match s with
    | '+' :: r => r
    | _ => s
  (natural? digits).filter (· < 2 ^ bits)

/-- Reads an integer from `-2 ^ (bits - 1)` up to `2 ^ (bits - 1)`, the latter excluded. -/
def signed? (bits : Nat) (s : List Char) : Option Int :=
  (integer? s).filter fun n => -(2 ^ (bits - 1)) ≤ n && n < 2 ^ (bits - 1)

/-- A decimal fraction `± digits * 10 ^ scale`. The sign stands apart, for there is
a negative zero. -/
structure Decimal where
  negative : Bool
  digits : Nat
  scale : Int

/-- Reads what may follow the digits of a decimal fraction: nothing, or an exponent. -/
def exponent? : List Char → Option Int
  | [] => some 0
  | c :: s => if c = 'e' ∨ c = 'E' then integer? s else none

/-- Reads an unsigned decimal fraction: digits with a point before, among or after them, at least
one digit, then an optional exponent. -/
def fraction? (negative : Bool) (s : List Char) : Option Decimal :=
  let whole := s.takeWhile Char.isDigit
  let (part, tail) := match s.dropWhile Char.isDigit with
    | '.' :: r => (r.takeWhile Char.isDigit, r.dropWhile Char.isDigit)
    | r => ([], r)
  if (whole ++ part).isEmpty then none
  else (exponent? tail).map fun e => ⟨negative, value (whole ++ part), e - part.length⟩

/-- Reads a decimal fraction with an optional sign. -/
def decimal? : List Char → Option Decimal
  | '-' :: s => fraction? true s
  | '+' :: s => fraction? false s
  | s => fraction? false s

end RegionClient.Numeral
