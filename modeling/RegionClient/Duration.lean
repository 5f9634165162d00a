import RegionClient.Text.Numeral

set_option autoImplicit false

/-! # Durations

Lengths of time in whole nanoseconds, up to the greatest that 64 bits of seconds and the nanoseconds
beside them can hold. Products stop at that greatest duration.
-/

namespace RegionClient

/-- A length of time. -/
structure Duration where
  nanos : Nat
  nanos_lt : nanos < 2 ^ 64 * 1000000000
  deriving DecidableEq

namespace Duration

/-- The greatest duration. -/
def greatest : Duration :=
  ⟨2 ^ 64 * 1000000000 - 1, by decide⟩

/-- A number of nanoseconds, or the greatest duration if they are more than that. -/
def ofNanos (n : Nat) : Duration :=
  if h : n < 2 ^ 64 * 1000000000 then ⟨n, h⟩ else greatest

theorem nanos_ofNanos (n : Nat) : (ofNanos n).nanos = min n greatest.nanos := by
  unfold ofNanos
  split
  · rename_i h
    exact (Nat.min_eq_left (Nat.le_pred_of_lt h)).symm
  · rename_i h
    exact (Nat.min_eq_right (Nat.le_trans (Nat.sub_le ..) (Nat.le_of_not_lt h))).symm

/-- A number of seconds. -/
def ofSeconds (n : UInt64) : Duration :=
  ofNanos (n.toNat * 1000000000)

/-- A number of milliseconds. -/
def ofMillis (n : UInt64) : Duration :=
  ofNanos (n.toNat * 1000000)

/-- No time. -/
def zero : Duration :=
  ofNanos 0

instance : Inhabited Duration :=
  ⟨zero⟩

instance : LE Duration :=
  ⟨fun a b => a.nanos ≤ b.nanos⟩

instance (a b : Duration) : Decidable (a ≤ b) :=
  inferInstanceAs (Decidable (a.nanos ≤ b.nanos))

instance : Min Duration :=
  ⟨fun a b => if a ≤ b then a else b⟩

theorem le_def {a b : Duration} : a ≤ b ↔ a.nanos ≤ b.nanos :=
  Iff.rfl

theorem min_def {a b : Duration} : min a b = if a ≤ b then a else b :=
  rfl

theorem nanos_min (a b : Duration) : (min a b).nanos = min a.nanos b.nanos := by
  rw [min_def]
  split
  · rename_i h
    exact (Nat.min_eq_left h).symm
  · rename_i h
    exact (Nat.min_eq_right (Nat.le_of_not_le h)).symm

/-- A multiple of a duration, at most the greatest one. -/
def times (d : Duration) (k : Nat) : Duration :=
  ofNanos (d.nanos * k)

/-- The full seconds of a duration. -/
def seconds (d : Duration) : Nat :=
  d.nanos / 1000000000

/-- The nanoseconds that a duration has beside its full seconds. -/
def subsecNanos (d : Duration) : Nat :=
  d.nanos % 1000000000

/-! ## Written form -/

/-- The digits after the point of a fraction of a unit, without zeros at the end. -/
def fractionDigits (places n : Nat) : List Char :=
  let digits := Nat.toDigits 10 n
  ((List.replicate (places - digits.length) '0' ++ digits).reverse.dropWhile (· == '0')).reverse

/-- A number of nanoseconds in a unit of `10 ^ places` of them. -/
def inUnit (places : Nat) (unit : String) (n : Nat) : String :=
  let fraction := fractionDigits places (n % 10 ^ places)
  Numeral.ofNat (n / 10 ^ places) ++
    (if fraction = [] then "" else "." ++ String.ofList fraction) ++ unit

/-- The written form of a duration, in the greatest unit of which it has at least one. -/
def text (d : Duration) : String :=
  if 10 ^ 9 ≤ d.nanos then inUnit 9 "s" d.nanos
  else if 10 ^ 6 ≤ d.nanos then inUnit 6 "ms" d.nanos
  else if 10 ^ 3 ≤ d.nanos then inUnit 3 "µs" d.nanos
  else inUnit 0 "ns" d.nanos

end Duration

end RegionClient
