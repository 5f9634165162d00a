import RegionClient.Text.Numeral

set_option autoImplicit false

/-! # Finite binary64 numbers

A finite double is a sign and a magnitude that is a whole multiple of `2 ^ -1074`, the least
positive double; so the magnitude is kept as a natural number of such units, and all arithmetic is
exact arithmetic on natural numbers with one rounding at its end. A magnitude is a double's if it
lies below `2 ^ 1024` and has no more than 53 significant bits.

**Main statement.** `significant_roundUnits`: what rounding gives has at most 53 significant bits.
-/

namespace RegionClient

/-! ## Rounding -/

/-- The quotient rounded to the nearest natural number, a half to the even neighbour. -/
def roundDiv (num den : Nat) : Nat :=
  let q := num / den
  let r := num % den
  if 2 * r < den then q
  else if den < 2 * r then q + 1
  else if q % 2 = 0 then q else q + 1

/-- The quotient rounded to 53 significant bits, and to a natural number if it has fewer. -/
def roundUnits (num den : Nat) : Nat :=
  let shift := (num / den).log2 - 52
  roundDiv num (den * 2 ^ shift) * 2 ^ shift

/-- No bit is set more than 52 places below the highest. -/
def Significant (units : Nat) : Prop :=
  2 ^ (units.log2 - 52) ∣ units

theorem roundDiv_le (num den : Nat) : roundDiv num den ≤ num / den + 1 := by
  simp only [roundDiv]
  split
  · omega
  · split
    · omega
    · split <;> omega

private theorem div_shift_lt (n : Nat) : n / 2 ^ (n.log2 - 52) < 2 ^ 53 := by
  refine Nat.div_lt_of_lt_mul ?_
  rw [← Nat.pow_add]
  exact Nat.lt_of_lt_of_le Nat.lt_log2_self (Nat.pow_le_pow_right (by omega) (by omega))

theorem significant_mul_two_pow {r : Nat} (s : Nat) (hr : r ≤ 2 ^ 53) :
    Significant (r * 2 ^ s) := by
  unfold Significant
  rcases Nat.eq_zero_or_pos r with rfl | hpos
  · simp
  · rcases Nat.lt_or_eq_of_le hr with hlt | rfl
    · refine Nat.dvd_trans (Nat.pow_dvd_pow 2 ?_) (Nat.dvd_mul_left _ _)
      have hne : r * 2 ^ s ≠ 0 :=
        Nat.mul_ne_zero (by omega) (Nat.pos_iff_ne_zero.1 (Nat.two_pow_pos s))
      have hbound : (r * 2 ^ s).log2 < 53 + s := (Nat.log2_lt hne).2 (by
        rw [Nat.pow_add]
        exact Nat.mul_lt_mul_of_pos_right hlt (Nat.two_pow_pos s))
      omega
    · rw [← Nat.pow_add, Nat.log2_two_pow]
      exact Nat.pow_dvd_pow 2 (by omega)

/-- **Rounding leaves at most 53 significant bits.** -/
theorem significant_roundUnits (num den : Nat) : Significant (roundUnits num den) := by
  refine significant_mul_two_pow _ (Nat.le_trans (roundDiv_le _ _) ?_)
  rw [← Nat.div_div_eq_div_mul]
  exact div_shift_lt (num / den)

/-! ## Doubles -/

/-- The bits of a magnitude in units: 1074 below the point and 1024 above it. -/
def Binary64.width : Nat :=
  2098

/-- The least magnitude that is too great, `2 ^ 1024` in units. -/
def Binary64.limit : Nat :=
  2 ^ Binary64.width

theorem Binary64.limit_pos : 0 < Binary64.limit :=
  Nat.two_pow_pos Binary64.width

/-- A finite double, `± units * 2 ^ -1074`. There are two zeros. -/
structure Binary64 where
  negative : Bool
  units : Nat
  bounded : units < Binary64.limit
  significant : Significant units
  deriving DecidableEq

namespace Binary64

/-- The units in the number one. -/
def one : Nat :=
  2 ^ 1074

/-- Zero, of either sign. -/
def zero (negative : Bool) : Binary64 :=
  ⟨negative, 0, limit_pos, Nat.dvd_zero _⟩

instance : Inhabited Binary64 :=
  ⟨zero false⟩

/-- The double nearest to `num / den` units, unless that is out of range. -/
def ofUnits? (negative : Bool) (num den : Nat) : Option Binary64 :=
  if h : roundUnits num den < limit then
    some ⟨negative, roundUnits num den, h, significant_roundUnits num den⟩
  else none

/-- The double nearest to a natural number. -/
def ofNat? (n : Nat) : Option Binary64 :=
  ofUnits? false (n * one) 1

/-- The product, rounded once. -/
def mul? (a b : Binary64) : Option Binary64 :=
  ofUnits? (a.negative != b.negative) (a.units * b.units) one

/-- The quotient, rounded once. -/
def div? (a b : Binary64) : Option Binary64 :=
  ofUnits? (a.negative != b.negative) (a.units * one) b.units

/-- The same magnitude with a sign of one's choice. -/
def withSign (a : Binary64) (negative : Bool) : Binary64 :=
  { a with negative }

/-- The double nearest to a decimal fraction, unless that is out of range. Powers of ten far outside
the range of doubles are answered without being computed. -/
def ofDecimal? (d : Numeral.Decimal) : Option Binary64 :=
  let top := (Nat.toDigits 10 d.digits).length + d.scale
  if d.digits = 0 ∨ top < -330 then some (zero d.negative)
  else if 310 < top then none
  else
    match d.scale with
    | .ofNat k => ofUnits? d.negative (d.digits * 10 ^ k * one) 1
    | .negSucc k => ofUnits? d.negative (d.digits * one) (10 ^ (k + 1))

/-- The number without its fraction. -/
def whole (a : Binary64) : Int :=
  if a.negative then -((a.units / one : Nat) : Int) else ((a.units / one : Nat) : Int)

/-- Whether the number has no fraction. -/
def isWhole (a : Binary64) : Bool :=
  a.units % one == 0

/-- Whether the number is below zero; the negative zero is not. -/
def isBelowZero (a : Binary64) : Bool :=
  a.negative && a.units != 0

end Binary64

end RegionClient
