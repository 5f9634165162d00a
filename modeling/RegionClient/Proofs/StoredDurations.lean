import RegionClient.RetryPolicy

set_option autoImplicit false

/-! # Waits in machine words

A duration is stored as seconds in a word of 64 bits and, beside them, less than a second of
nanoseconds in one of 32. Here a wait is computed on such words, operation by operation. A *checked*
operation finds out that there is no room for its exact result, and the greatest value is taken
instead. A *plain* one does not: `Word.Overflow` is what becomes of the whole computation then.

Main statement: `RetryPolicy.storedDelay_eq`. No plain operation overflows, whatever the policy and
the attempt, and the words that come out hold the wait.
-/

namespace RegionClient

namespace Word

/-! ## Words -/

/-- The word of `w` bits for a number, if there is room. -/
def fit? (w n : Nat) : Option (BitVec w) :=
  if n < 2 ^ w then some (.ofNat w n) else none

theorem fit?_eq_none {w n : Nat} : fit? w n = none ↔ 2 ^ w ≤ n := by
  simp [fit?]

theorem fit?_eq_some {w n : Nat} {x : BitVec w} : fit? w n = some x ↔ x.toNat = n := by
  rw [fit?, Option.ite_none_right_eq_some, Option.some.injEq]
  constructor
  · rintro ⟨hn, rfl⟩
    exact Nat.mod_eq_of_lt hn
  · rintro rfl
    exact ⟨x.isLt, BitVec.eq_of_toNat_eq (Nat.mod_eq_of_lt x.isLt)⟩

theorem exists_fit? {w n : Nat} (h : n < 2 ^ w) : ∃ x, fit? w n = some x ∧ x.toNat = n :=
  ⟨.ofNat w n, if_pos h, Nat.mod_eq_of_lt h⟩

/-- There is no room for the result of a plain operation. -/
inductive Overflow where
  | overflow
  deriving DecidableEq

/-- A plain operation, by its exact result. -/
def plain {α : Type} : Option α → Except Overflow α
  | some a => .ok a
  | none => .error .overflow

/-! ## Powers -/

/-- A product, checked. -/
def product? {w : Nat} (a b : BitVec w) : Option (BitVec w) :=
  fit? w (a.toNat * b.toNat)

/-- What is accumulated of a power when its exponent is halved: one more factor if that is odd. -/
def factor? {w : Nat} (acc base : BitVec w) (exponent : Nat) : Option (BitVec w) :=
  if exponent % 2 = 1 then product? acc base else some acc

/-- The product of a word and a power of another, by squaring, if all checks find room. -/
def power? {w : Nat} (acc base : BitVec w) (exponent : Nat) : Option (BitVec w) :=
  if exponent ≤ 1 then product? acc base
  else
    (factor? acc base exponent).bind fun factor =>
      (product? base base).bind fun square => power? factor square (exponent / 2)
termination_by exponent

/-- A power of a word, or the greatest word where a check finds no room. -/
def saturatingPower {w : Nat} (base : BitVec w) (exponent : Nat) : BitVec w :=
  if exponent = 0 then 1 else (power? 1 base exponent).getD (.allOnes w)

/-- Halving an exponent squares the base, and takes one factor out if the exponent is odd. -/
theorem mul_pow_halved (a b n : Nat) :
    a * b ^ n = (if n % 2 = 1 then a * b else a) * (b * b) ^ (n / 2) := by
  have hsquares : (b * b) ^ (n / 2) = b ^ (2 * (n / 2)) := by
    rw [Nat.pow_mul, Nat.pow_two]
  rw [hsquares]
  split
  · have hn : n = (2 * (n / 2)).succ := by omega
    calc a * b ^ n
        = a * b ^ (2 * (n / 2)).succ := by rw [← hn]
      _ = a * (b * b ^ (2 * (n / 2))) := by rw [Nat.pow_succ']
      _ = a * b * b ^ (2 * (n / 2)) := (Nat.mul_assoc ..).symm
  · have hn : 2 * (n / 2) = n := by omega
    rw [hn]

theorem le_mul_pow {a b n : Nat} (ha : a ≠ 0) (hn : n ≠ 0) : b ≤ a * b ^ n :=
  Nat.le_trans (Nat.le_self_pow hn b) (Nat.le_mul_of_pos_left _ (Nat.pos_of_ne_zero ha))

section Powers

variable {w n : Nat} {acc base x : BitVec w}

theorem factor?_eq_some (h : factor? acc base n = some x) :
    x.toNat = if n % 2 = 1 then acc.toNat * base.toNat else acc.toNat := by
  rw [factor?] at h
  split at h
  · rename_i hodd
    rw [if_pos hodd]
    exact fit?_eq_some.mp h
  · rename_i heven
    rw [if_neg heven, Option.some.inj h]

theorem factor?_eq_none (h : factor? acc base n = none) : 2 ^ w ≤ acc.toNat * base.toNat := by
  rw [factor?] at h
  split at h
  · exact fit?_eq_none.mp h
  · cases h

/-- If what is accumulated is zero only where the base is, that stays so. -/
theorem eq_zero_of_factor? (h : factor? acc base n = some x)
    (hacc : acc.toNat = 0 → base.toNat = 0) : x.toNat = 0 → base.toNat = 0 := by
  rw [factor?_eq_some h]
  split
  · exact fun hproduct => (Nat.mul_eq_zero.mp hproduct).elim hacc id
  · exact hacc

theorem ne_zero_of_square (h : product? base base = none) : base.toNat ≠ 0 := by
  have hroom : 2 ^ w ≤ base.toNat * base.toNat := fit?_eq_none.mp h
  intro hzero
  rw [hzero] at hroom
  exact absurd hroom (Nat.not_le.mpr (Nat.two_pow_pos w))

/-- A check on the way finds no room only if there is none for the whole product: where the
accumulated factor is zero, so is the base, and otherwise no later factor makes the product less. -/
theorem power?_eq (hn : n ≠ 0) (hacc : acc.toNat = 0 → base.toNat = 0) :
    power? acc base n = fit? w (acc.toNat * base.toNat ^ n) := by
  induction n using Nat.strongRecOn generalizing acc base with
  | ind n ih =>
    rw [power?]
    split
    · obtain rfl : n = 1 := by omega
      rw [product?, Nat.pow_one]
    · have hhalf : n / 2 ≠ 0 := by omega
      cases hfactor : factor? acc base n with
      | none =>
        have hroom : 2 ^ w ≤ acc.toNat * base.toNat ^ n := calc
          2 ^ w ≤ acc.toNat * base.toNat := factor?_eq_none hfactor
          _ ≤ acc.toNat * base.toNat ^ n := Nat.mul_le_mul_left _ (Nat.le_self_pow hn _)
        exact (fit?_eq_none.mpr hroom).symm
      | some factor =>
        have hzero := eq_zero_of_factor? hfactor hacc
        rw [mul_pow_halved, ← factor?_eq_some hfactor, Option.bind_some]
        cases hsquare : product? base base with
        | none =>
          have hne : factor.toNat ≠ 0 := mt hzero (ne_zero_of_square hsquare)
          have hroom : 2 ^ w ≤ factor.toNat * (base.toNat * base.toNat) ^ (n / 2) := calc
            2 ^ w ≤ base.toNat * base.toNat := fit?_eq_none.mp hsquare
            _ ≤ factor.toNat * (base.toNat * base.toNat) ^ (n / 2) := le_mul_pow hne hhalf
          exact (fit?_eq_none.mpr hroom).symm
        | some square =>
          have hsquared : square.toNat = base.toNat * base.toNat := fit?_eq_some.mp hsquare
          have hsquareZero : factor.toNat = 0 → square.toNat = 0 := fun h => by
            rw [hsquared, hzero h]
          rw [Option.bind_some, ih (n / 2) (by omega) hhalf hsquareZero, hsquared]

end Powers

theorem toNat_saturatingPower (base : BitVec 32) (exponent : Nat) :
    (saturatingPower base exponent).toNat = RetryPolicy.boundedPower base.toNat exponent := by
  rw [RetryPolicy.boundedPower_eq, RetryPolicy.greatestPower, saturatingPower]
  split
  · rename_i h
    rw [h]
    rfl
  · rename_i h
    have hone : (1 : BitVec 32).toNat = 0 → base.toNat = 0 := fun h => absurd h (by decide)
    have hvalue : (1 : BitVec 32).toNat * base.toNat ^ exponent = base.toNat ^ exponent :=
      Nat.one_mul _
    rw [power?_eq h hone, hvalue]
    cases hpower : fit? 32 (base.toNat ^ exponent) with
    | none =>
      have hroom := fit?_eq_none.mp hpower
      rw [Nat.min_eq_right (Nat.le_trans (Nat.sub_le ..) hroom)]
      rfl
    | some power =>
      rw [← fit?_eq_some.mp hpower, Nat.min_eq_left (Nat.le_sub_one_of_lt power.isLt)]
      rfl

end Word

/-! ## Durations -/

/-- A duration as it is stored. -/
structure StoredDuration where
  seconds : BitVec 64
  nanos : BitVec 32
  deriving DecidableEq

namespace StoredDuration

open Word

/-- The greatest duration. -/
def greatest : StoredDuration :=
  ⟨.allOnes 64, 999999999⟩

/-- A multiple of some seconds with what is carried to it, checked twice. -/
def carriedSeconds? (seconds : BitVec 64) (k : BitVec 32) (carry : BitVec 64) :
    Option (BitVec 64) :=
  (fit? 64 (seconds.toNat * k.toNat)).bind fun product => fit? 64 (product.toNat + carry.toNat)

/-- A multiple of a stored duration. The nanoseconds are multiplied in 64 bits, and what they carry
goes to the seconds; only the seconds are checked. -/
def times (d : StoredDuration) (k : BitVec 32) : Except Overflow StoredDuration := do
  let total ← plain (fit? 64 (d.nanos.toNat * k.toNat))
  let nanos ← plain (fit? 32 (total % 1000000000).toNat)
  match carriedSeconds? d.seconds k (total / 1000000000) with
  | some seconds => return ⟨seconds, nanos⟩
  | none => return greatest

/-- If there is no room for the product, there is none for the sum. -/
theorem carriedSeconds?_eq (seconds : BitVec 64) (k : BitVec 32) (carry : BitVec 64) :
    carriedSeconds? seconds k carry = fit? 64 (seconds.toNat * k.toNat + carry.toNat) := by
  rw [carriedSeconds?]
  cases hproduct : fit? 64 (seconds.toNat * k.toNat) with
  | none =>
    have hroom := fit?_eq_none.mp hproduct
    exact (fit?_eq_none.mpr (Nat.le_trans hroom (Nat.le_add_right ..))).symm
  | some product => rw [Option.bind_some, fit?_eq_some.mp hproduct]

instance : LE StoredDuration :=
  ⟨fun a b => a.seconds < b.seconds ∨ a.seconds = b.seconds ∧ a.nanos ≤ b.nanos⟩

instance (a b : StoredDuration) : Decidable (a ≤ b) :=
  inferInstanceAs (Decidable (_ ∨ _))

theorem le_def {a b : StoredDuration} :
    a ≤ b ↔ a.seconds < b.seconds ∨ a.seconds = b.seconds ∧ a.nanos ≤ b.nanos :=
  Iff.rfl

/-- The shorter of two stored durations. -/
def shorter (a b : StoredDuration) : StoredDuration :=
  if a ≤ b then a else b

end StoredDuration

namespace Duration

open Word

/-- The words of a duration. -/
def stored (d : Duration) : StoredDuration :=
  ⟨.ofNat 64 d.seconds, .ofNat 32 d.subsecNanos⟩

theorem nanos_eq (d : Duration) : d.nanos = d.seconds * 1000000000 + d.subsecNanos :=
  (Nat.div_add_mod' d.nanos 1000000000).symm

theorem subsecNanos_lt (d : Duration) : d.subsecNanos < 1000000000 :=
  Nat.mod_lt _ (by decide)

theorem seconds_lt (d : Duration) : d.seconds < 2 ^ 64 :=
  Nat.div_lt_of_lt_mul (by rw [Nat.mul_comm]; exact d.nanos_lt)

theorem toNat_seconds_stored (d : Duration) : d.stored.seconds.toNat = d.seconds :=
  Nat.mod_eq_of_lt d.seconds_lt

theorem toNat_nanos_stored (d : Duration) : d.stored.nanos.toNat = d.subsecNanos :=
  Nat.mod_eq_of_lt (Nat.lt_trans d.subsecNanos_lt (by decide))

/-- A multiple has the seconds of the multiplied nanoseconds beside its own. -/
theorem nanos_mul (d : Duration) (k : Nat) : d.nanos * k =
    (d.seconds * k + d.subsecNanos * k / 1000000000) * 1000000000 +
      d.subsecNanos * k % 1000000000 := by
  calc d.nanos * k
      = d.seconds * k * 1000000000 + d.subsecNanos * k := by
        rw [nanos_eq, Nat.add_mul, Nat.mul_right_comm]
    _ = d.seconds * k * 1000000000 + (d.subsecNanos * k / 1000000000 * 1000000000 +
          d.subsecNanos * k % 1000000000) := by rw [Nat.div_add_mod']
    _ = (d.seconds * k + d.subsecNanos * k / 1000000000) * 1000000000 +
          d.subsecNanos * k % 1000000000 := by rw [Nat.add_mul, Nat.add_assoc]

theorem stored_ofNanos (seconds : BitVec 64) {nanos : BitVec 32}
    (hnanos : nanos.toNat < 1000000000) :
    (ofNanos (seconds.toNat * 1000000000 + nanos.toNat)).stored = ⟨seconds, nanos⟩ := by
  have hseconds := seconds.isLt
  have hlt : seconds.toNat * 1000000000 + nanos.toNat < 2 ^ 64 * 1000000000 := by omega
  have hdiv : (seconds.toNat * 1000000000 + nanos.toNat) / 1000000000 = seconds.toNat := by omega
  have hmod : (seconds.toNat * 1000000000 + nanos.toNat) % 1000000000 = nanos.toNat := by omega
  rw [ofNanos, dif_pos hlt, stored, Duration.seconds, subsecNanos, hdiv, hmod]
  simp

theorem ofNanos_greatest {n : Nat} (h : 2 ^ 64 * 1000000000 ≤ n) : ofNanos n = greatest :=
  dif_neg (Nat.not_lt.mpr h)

/-- **A multiple of a duration on words** is the multiple, and no plain operation overflows. -/
theorem stored_times (d : Duration) (k : BitVec 32) :
    d.stored.times k = .ok (d.times k.toNat).stored := by
  have hk : d.subsecNanos * k.toNat < 2 ^ 64 := by
    have hle := Nat.mul_lt_mul'' d.subsecNanos_lt k.isLt
    omega
  obtain ⟨total, htotal, hvalue⟩ := exists_fit? hk
  have hlow : (total % 1000000000).toNat < 1000000000 := Nat.mod_lt _ (by decide)
  obtain ⟨nanos, hnanos, hrest⟩ := exists_fit? (Nat.lt_trans hlow (by decide : _ < 2 ^ 32))
  have hproduct : d.nanos * k.toNat =
      (d.stored.seconds.toNat * k.toNat + (total / 1000000000).toNat) * 1000000000 +
        nanos.toNat := by
    rw [nanos_mul, hrest, toNat_seconds_stored, ← hvalue]
    rfl
  rw [StoredDuration.times, toNat_nanos_stored, htotal, times, hproduct]
  simp only [plain, bind, Except.bind, hnanos, StoredDuration.carriedSeconds?_eq]
  cases hseconds : fit? 64 (d.stored.seconds.toNat * k.toNat + (total / 1000000000).toNat) with
  | none =>
    have hroom := fit?_eq_none.mp hseconds
    rw [ofNanos_greatest (by omega)]
    rfl
  | some seconds =>
    rw [← fit?_eq_some.mp hseconds, stored_ofNanos seconds (hrest ▸ hlow)]
    rfl

/-- Three quarters of a second, three times. -/
example : (StoredDuration.mk 0 750000000).times 3 = .ok ⟨2, 250000000⟩ :=
  rfl

theorem stored_le_iff {a b : Duration} : a.stored ≤ b.stored ↔ a ≤ b := by
  have ha := a.subsecNanos_lt
  have hb := b.subsecNanos_lt
  rw [StoredDuration.le_def, BitVec.lt_def, ← BitVec.toNat_inj, BitVec.le_def,
    toNat_seconds_stored, toNat_seconds_stored, toNat_nanos_stored, toNat_nanos_stored, le_def,
    nanos_eq a, nanos_eq b]
  omega

theorem stored_shorter (a b : Duration) : a.stored.shorter b.stored = (min a b).stored := by
  rw [StoredDuration.shorter, min_def]
  simp only [stored_le_iff]
  split <;> rfl

end Duration

/-! ## Waits -/

namespace RetryPolicy

open Word

/-- The wait before an attempt, computed on words. -/
def storedDelay (p : RetryPolicy) (attempt : UInt32) : Except Overflow StoredDuration :=
  if attempt = 0 then .ok ⟨0, 0⟩
  else do
    let exponent ← plain (if 1 ≤ attempt then some (attempt - 1) else none)
    let power := saturatingPower p.multiplier.toBitVec exponent.toNat
    let delay ← p.initialDelay.stored.times power
    return delay.shorter p.maxDelay.stored

/-- **No overflow**: the words that are computed hold the wait, for every policy and attempt. -/
theorem storedDelay_eq (p : RetryPolicy) (attempt : UInt32) :
    p.storedDelay attempt = .ok (p.delay attempt).stored := by
  rw [storedDelay, delay]
  split
  · rfl
  · rename_i h
    have hle : 1 ≤ attempt := by
      rw [UInt32.le_iff_toNat_le]
      exact Nat.one_le_iff_ne_zero.mpr fun hzero => h (UInt32.toNat_inj.mp hzero)
    have hexponent : (attempt - 1).toNat = attempt.toNat - 1 := UInt32.toNat_sub_of_le _ _ hle
    simp only [if_pos hle, plain, bind, Except.bind, Duration.stored_times, toNat_saturatingPower,
      hexponent, Duration.stored_shorter]
    rfl

end RetryPolicy

end RegionClient
