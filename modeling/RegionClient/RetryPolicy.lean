import RegionClient.Duration
import RegionClient.Text.Blank

set_option autoImplicit false

/-! # Retrying

How often a failed request is tried again, and how long to wait before. The wait grows by a factor
from one attempt to the next, up to a limit, which also holds for a wait that the server asks for.
-/

namespace RegionClient

/-- When to try again. -/
structure RetryPolicy where
  /-- How many attempts may follow the first. -/
  maxRetries : UInt32
  initialDelay : Duration
  /-- The longest wait before any attempt. -/
  maxDelay : Duration
  /-- The factor by which the wait grows. -/
  multiplier : UInt32
  deriving DecidableEq

namespace RetryPolicy

/-- Three attempts after the first, with waits from half a second to five seconds that double. -/
def standard : RetryPolicy :=
  ⟨3, .ofMillis 500, .ofMillis 5000, 2⟩

/-- No attempt after the first. -/
def never : RetryPolicy :=
  ⟨0, .zero, .zero, 1⟩

instance : Inhabited RetryPolicy :=
  ⟨standard⟩

/-- The greatest power that counts. -/
def greatestPower : Nat :=
  2 ^ 32 - 1

/-- A power of a base below `2 ^ 32`, at most the greatest one. No exponent above 32 gives another
result. -/
def boundedPower (base exponent : Nat) : Nat :=
  min (base ^ min exponent 32) greatestPower

theorem boundedPower_eq (base exponent : Nat) :
    boundedPower base exponent = min (base ^ exponent) greatestPower := by
  unfold boundedPower
  rcases Nat.le_total exponent 32 with h | h
  · rw [Nat.min_eq_left h]
  · rw [Nat.min_eq_right h]
    match base with
    | 0 => rw [Nat.zero_pow (by decide), Nat.zero_pow (by omega)]
    | 1 => rw [Nat.one_pow, Nat.one_pow]
    | b + 2 =>
      have hpow : 2 ^ 32 ≤ (b + 2) ^ 32 := Nat.pow_le_pow_left (by omega) 32
      have hle : (b + 2) ^ 32 ≤ (b + 2) ^ exponent := Nat.pow_le_pow_right (by omega) h
      have hgreatest : greatestPower ≤ 2 ^ 32 := Nat.sub_le ..
      rw [Nat.min_eq_right (Nat.le_trans hgreatest hpow),
        Nat.min_eq_right (Nat.le_trans hgreatest (Nat.le_trans hpow hle))]

/-- The wait before an attempt after the first; the first itself has none. -/
def delay (p : RetryPolicy) (attempt : UInt32) : Duration :=
  if attempt = 0 then .zero
  else min (p.initialDelay.times (boundedPower p.multiplier.toNat (attempt.toNat - 1))) p.maxDelay

/-- The wait before an attempt for which the server may have asked for another wait. -/
def delayWithHint (p : RetryPolicy) (attempt : UInt32) (hint : Option Duration) : Duration :=
  match hint with
  | some wait => if attempt = 0 then p.delay attempt else min wait p.maxDelay
  | none => p.delay attempt

theorem delay_le (p : RetryPolicy) (attempt : UInt32) : p.delay attempt ≤ p.maxDelay := by
  unfold delay
  split
  · exact Nat.zero_le _
  · rw [Duration.le_def, Duration.nanos_min]
    exact Nat.min_le_right _ _

/-- No wait is longer than the longest of the policy. -/
theorem delayWithHint_le (p : RetryPolicy) (attempt : UInt32) (hint : Option Duration) :
    p.delayWithHint attempt hint ≤ p.maxDelay := by
  cases hint with
  | none => exact p.delay_le attempt
  | some wait =>
      unfold delayWithHint
      dsimp only
      split
      · exact p.delay_le attempt
      · rw [Duration.le_def, Duration.nanos_min]
        exact Nat.min_le_right _ _

/-- Whether a failed request is ever tried again. -/
def hasRetries (p : RetryPolicy) : Bool :=
  decide (0 < p.maxRetries)

/-- The seconds of a wait that a server asks for; a date is not understood. -/
def hintedSeconds? (value : String) : Option UInt64 :=
  (Numeral.unsigned? 64 (Text.trimmed value.toList)).map UInt64.ofNat

end RetryPolicy

end RegionClient
