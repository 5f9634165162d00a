import RegionClient.Proofs.StoredDurations

set_option autoImplicit false

/-! # Backoff

The wait before an attempt grows by a factor with each attempt, up to the longest wait of the
policy: by the formula it is the lesser of `initialDelay * multiplier ^ (attempt - 1)` and that
limit. Both the power and the product with it are bounded on the way, by `greatestPower` and by the
greatest duration. The limit hides the bound of the product, as no limit is beyond it, but not that
of the power: with a short first wait and a long limit, waits stop growing before the limit.

Main statements: `RetryPolicy.delay_eq_formula_iff` says which waits are those of the formula, and
`RetryPolicy.delay_neverShrinks` that waits only grow.
-/

namespace RegionClient

namespace Duration

theorem le_antisymm {a b : Duration} (hab : a ≤ b) (hba : b ≤ a) : a = b := by
  obtain ⟨nanos, hlt⟩ := a
  obtain ⟨nanos', hlt'⟩ := b
  obtain rfl : nanos = nanos' := Nat.le_antisymm hab hba
  rfl

theorem nanos_le_greatest (d : Duration) : d.nanos ≤ greatest.nanos :=
  Nat.le_sub_one_of_lt d.nanos_lt

/-- A limit hides the bound of a product. -/
theorem nanos_min_times (d limit : Duration) (k : Nat) :
    (min (d.times k) limit).nanos = min (d.nanos * k) limit.nanos := by
  rw [nanos_min, times, nanos_ofNanos, Nat.min_assoc, Nat.min_eq_right limit.nanos_le_greatest]

end Duration

namespace RetryPolicy

/-! ## The formula -/

/-- The nanoseconds of the wait before an attempt by the formula, with no bound but the limit. -/
def formula (p : RetryPolicy) (attempt : UInt32) : Nat :=
  min (p.initialDelay.nanos * p.multiplier.toNat ^ (attempt.toNat - 1)) p.maxDelay.nanos

theorem nanos_delay (p : RetryPolicy) {attempt : UInt32} (h : 1 ≤ attempt) :
    (p.delay attempt).nanos =
      min (p.initialDelay.nanos * boundedPower p.multiplier.toNat (attempt.toNat - 1))
        p.maxDelay.nanos := by
  have hne : attempt ≠ 0 := by
    rintro rfl
    exact absurd h (by decide)
  rw [delay, if_neg hne, Duration.nanos_min_times]

/-- A limit hides the bound of a factor only if it is reached with that bound already. -/
theorem min_mul_min_eq_iff {initial power bound limit : Nat} :
    min (initial * min power bound) limit = min (initial * power) limit ↔
      power ≤ bound ∨ limit ≤ initial * bound ∨ initial = 0 := by
  by_cases hle : power ≤ bound
  · rw [Nat.min_eq_left hle]
    exact iff_of_true rfl (.inl hle)
  · have hlt : bound < power := Nat.not_le.mp hle
    rw [Nat.min_eq_right (Nat.le_of_lt hlt)]
    constructor
    · intro h
      rcases Nat.eq_zero_or_pos initial with hzero | hpos
      · exact .inr (.inr hzero)
      · have hmul : initial * bound < initial * power := Nat.mul_lt_mul_of_pos_left hlt hpos
        exact .inr (.inl (by omega))
    · rintro (h | h | rfl)
      · exact absurd h hle
      · have hmul : initial * bound ≤ initial * power := Nat.mul_le_mul_left _ (Nat.le_of_lt hlt)
        omega
      · rw [Nat.zero_mul, Nat.zero_mul]

/-- **Waits by the formula.** The wait before an attempt is what the formula gives with a power of
at most `greatestPower`. So it is that of the formula as it stands unless the power is greater, the
first wait is not zero and even `greatestPower` times that does not reach the limit. -/
theorem delay_eq_formula_iff (p : RetryPolicy) (attempt : UInt32) (h : 1 ≤ attempt) :
    (p.delay attempt).nanos =
        min (p.initialDelay.nanos * min (p.multiplier.toNat ^ (attempt.toNat - 1)) greatestPower)
          p.maxDelay.nanos ∧
      ((p.delay attempt).nanos = p.formula attempt ↔
        p.multiplier.toNat ^ (attempt.toNat - 1) ≤ greatestPower ∨
          p.maxDelay.nanos ≤ p.initialDelay.nanos * greatestPower ∨
          p.initialDelay.nanos = 0) := by
  have hdelay := nanos_delay p h
  rw [boundedPower_eq] at hdelay
  refine ⟨hdelay, ?_⟩
  rw [hdelay, formula]
  exact min_mul_min_eq_iff

/-- A policy with a first wait of a millisecond and a limit of about four months. -/
def patient : RetryPolicy :=
  ⟨40, .ofMillis 1, .ofMillis 10000000000, 2⟩

theorem delay_eq_formula_iff_patient :
    (1 : UInt32) ≤ 32 ∧ (patient.delay 32).nanos = 1000000 * min (2 ^ 31) greatestPower ∧
      (patient.delay 32).nanos = patient.formula 32 := by
  obtain ⟨hdelay, hformula⟩ := delay_eq_formula_iff patient 32 (by decide)
  exact ⟨by decide, hdelay, hformula.mpr (.inl (by decide))⟩

/-- From attempt 33 on the power does not grow, nor does the wait, which is below the limit. -/
theorem delay_below_formula :
    (1 : UInt32) ≤ 34 ∧ (patient.delay 34).nanos = 4294967295000000 ∧
      patient.formula 34 = 8589934592000000 ∧ (patient.delay 34).nanos ≠ patient.formula 34 := by
  decide

/-! ## Growth -/

/-- A factor of at least one lets powers grow. -/
theorem boundedPower_mono {base m n : Nat} (hbase : 1 ≤ base) (h : m ≤ n) :
    boundedPower base m ≤ boundedPower base n := by
  rw [boundedPower_eq, boundedPower_eq]
  have hpow : base ^ m ≤ base ^ n := Nat.pow_le_pow_right hbase h
  omega

theorem delay_mono (p : RetryPolicy) {a b : UInt32} (hfactor : 1 ≤ p.multiplier) (ha : 1 ≤ a)
    (hab : a ≤ b) : p.delay a ≤ p.delay b := by
  have hb : 1 ≤ b := UInt32.le_trans ha hab
  have hexponent : a.toNat - 1 ≤ b.toNat - 1 := Nat.sub_le_sub_right hab 1
  have hmul := Nat.mul_le_mul_left p.initialDelay.nanos
    (boundedPower_mono (UInt32.le_iff_toNat_le.mp hfactor) hexponent)
  calc (p.delay a).nanos
      = min (p.initialDelay.nanos * boundedPower p.multiplier.toNat (a.toNat - 1))
          p.maxDelay.nanos := nanos_delay p ha
    _ ≤ min (p.initialDelay.nanos * boundedPower p.multiplier.toNat (b.toNat - 1))
          p.maxDelay.nanos := by omega
    _ = (p.delay b).nanos := (nanos_delay p hb).symm

/-- **Waits never shrink**, if the factor is not zero: a later attempt waits at least as long, and
no attempt waits less once the limit is reached. And whatever the factor, no operation on words
overflows: the words in which a wait is computed hold its nanoseconds. -/
theorem delay_neverShrinks (p : RetryPolicy) :
    (1 ≤ p.multiplier → ∀ a b : UInt32, 1 ≤ a → a ≤ b →
      p.delay a ≤ p.delay b ∧ (p.delay a = p.maxDelay → p.delay b = p.maxDelay)) ∧
    ∀ attempt, ∃ words, p.storedDelay attempt = .ok words ∧
      words.seconds.toNat * 1000000000 + words.nanos.toNat = (p.delay attempt).nanos := by
  refine ⟨fun hfactor a b ha hab => ?_, fun attempt => ?_⟩
  · have hle : p.delay a ≤ p.delay b := p.delay_mono hfactor ha hab
    refine ⟨hle, fun hlimit => Duration.le_antisymm (p.delay_le b) ?_⟩
    rw [← hlimit]
    exact hle
  · refine ⟨(p.delay attempt).stored, p.storedDelay_eq attempt, ?_⟩
    rw [Duration.toNat_seconds_stored, Duration.toNat_nanos_stored, ← Duration.nanos_eq]

/-- Waits of the standard policy, up to its limit and at it. -/
theorem delay_neverShrinks_standard :
    1 ≤ standard.multiplier ∧
    ((1 : UInt32) ≤ 3 ∧ (3 : UInt32) ≤ 4 ∧ standard.delay 3 ≤ standard.delay 4) ∧
    (standard.delay 5 = standard.maxDelay ∧ standard.delay 4294967295 = standard.maxDelay) := by
  obtain ⟨hgrows, -⟩ := delay_neverShrinks standard
  have hfactor : 1 ≤ standard.multiplier := by decide
  have hlimit : standard.delay 5 = standard.maxDelay := by decide
  exact ⟨hfactor,
    ⟨by decide, by decide, (hgrows hfactor 3 4 (by decide) (by decide)).1⟩,
    ⟨hlimit, (hgrows hfactor 5 4294967295 (by decide) (by decide)).2 hlimit⟩⟩

end RetryPolicy

end RegionClient
