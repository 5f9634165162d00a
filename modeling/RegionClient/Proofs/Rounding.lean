import RegionClient.Number.Binary64

set_option autoImplicit false

/-! # Rounding keeps the order of numbers

A quotient is rounded to 53 significant bits, so numbers of different size are rounded to multiples
of different powers of two. The powers of two themselves are on every such grid: no quotient passes
one when it is rounded (`two_pow_le_roundUnits`, `roundUnits_le_two_pow`), and between two of them
all quotients are rounded to one grid. So rounding is monotone: `roundUnits_mono`.

A whole number is read as the double nearest to it, if there is one: `Binary64.ofDecimal?_whole`.
-/

namespace RegionClient

/-! ## One grid -/

theorem div_le_roundDiv (num den : Nat) : num / den ≤ roundDiv num den := by
  simp only [roundDiv]
  split
  · exact Nat.le_refl _
  · split
    · omega
    · split <;> omega

theorem roundDiv_mono {num num' den : Nat} (h : num ≤ num') :
    roundDiv num den ≤ roundDiv num' den := by
  have hdiv : num / den ≤ num' / den := Nat.div_le_div_right h
  rcases Nat.lt_or_eq_of_le hdiv with hlt | heq
  · calc roundDiv num den
        ≤ num / den + 1 := roundDiv_le num den
      _ ≤ num' / den := hlt
      _ ≤ roundDiv num' den := div_le_roundDiv num' den
  · -- The quotients are the same, so the remainders decide.
    have hmod : num % den ≤ num' % den := by
      have hnum := Nat.div_add_mod num den
      have hnum' := Nat.div_add_mod num' den
      rw [heq] at hnum
      omega
    simp only [roundDiv, heq]
    repeat' split
    all_goals omega

/-! ## Powers of two -/

/-- What is rounded up to a multiple of `2 ^ s` lies between the neighbours on that grid. -/
theorem roundDiv_shift_bounds (num den s : Nat) :
    num / den / 2 ^ s ≤ roundDiv num (den * 2 ^ s) ∧
      roundDiv num (den * 2 ^ s) ≤ num / den / 2 ^ s + 1 := by
  rw [Nat.div_div_eq_div_mul]
  exact ⟨div_le_roundDiv _ _, roundDiv_le _ _⟩

/-- No quotient is rounded down past a power of two. -/
theorem two_pow_le_roundUnits {num den j : Nat} (h : 2 ^ j ≤ num / den) :
    2 ^ j ≤ roundUnits num den := by
  have hne : num / den ≠ 0 := by
    have hpos := Nat.two_pow_pos j
    omega
  have hj : j ≤ (num / den).log2 := (Nat.le_log2 hne).2 h
  unfold roundUnits
  generalize hs : (num / den).log2 - 52 = s
  have hsplit : (num / den).log2 = ((num / den).log2 - s) + s := by omega
  have hfloor : 2 ^ ((num / den).log2 - s) ≤ num / den / 2 ^ s := by
    rw [Nat.le_div_iff_mul_le (Nat.two_pow_pos s), ← Nat.pow_add, ← hsplit]
    exact Nat.log2_self_le hne
  calc 2 ^ j
      ≤ 2 ^ (num / den).log2 := Nat.pow_le_pow_right (by omega) hj
    _ = 2 ^ ((num / den).log2 - s) * 2 ^ s := by rw [← Nat.pow_add, ← hsplit]
    _ ≤ roundDiv num (den * 2 ^ s) * 2 ^ s :=
        Nat.mul_le_mul_right _ (Nat.le_trans hfloor (roundDiv_shift_bounds num den s).1)

/-- No quotient is rounded up past a power of two. -/
theorem roundUnits_le_two_pow {num den j : Nat} (h : num / den < 2 ^ j) :
    roundUnits num den ≤ 2 ^ j := by
  unfold roundUnits
  generalize hs : (num / den).log2 - 52 = s
  have hsj : s ≤ j := by
    by_cases hne : num / den = 0
    · have hlog : (0 : Nat).log2 = 0 := by decide
      rw [hne, hlog] at hs
      omega
    · have hlog : (num / den).log2 < j := (Nat.log2_lt hne).2 h
      omega
  have hsplit : 2 ^ j = 2 ^ (j - s) * 2 ^ s := by
    rw [← Nat.pow_add, Nat.sub_add_cancel hsj]
  have hfloor : num / den / 2 ^ s < 2 ^ (j - s) := by
    rw [Nat.div_lt_iff_lt_mul (Nat.two_pow_pos s), ← hsplit]
    exact h
  calc roundDiv num (den * 2 ^ s) * 2 ^ s
      ≤ 2 ^ (j - s) * 2 ^ s :=
        Nat.mul_le_mul_right _ (Nat.le_trans (roundDiv_shift_bounds num den s).2 hfloor)
    _ = 2 ^ j := hsplit.symm

/-! ## All grids -/

/-- **Rounding is monotone.** -/
theorem roundUnits_mono {num num' den : Nat} (h : num ≤ num') :
    roundUnits num den ≤ roundUnits num' den := by
  have hdiv : num / den ≤ num' / den := Nat.div_le_div_right h
  by_cases hlog : (num / den).log2 = (num' / den).log2
  · unfold roundUnits
    rw [hlog]
    exact Nat.mul_le_mul_right _ (roundDiv_mono h)
  · -- There is a power of two between the two quotients.
    have hne : num' / den ≠ 0 := by
      intro hzero
      have hzero' : num / den = 0 := Nat.le_zero.1 (hzero ▸ hdiv)
      exact hlog (by rw [hzero, hzero'])
    have hlt : num / den < 2 ^ (num' / den).log2 := by
      by_cases hzero : num / den = 0
      · rw [hzero]
        exact Nat.two_pow_pos _
      · rw [← Nat.log2_lt hzero]
        have hle : (num / den).log2 ≤ (num' / den).log2 :=
          (Nat.le_log2 hne).2 (Nat.le_trans (Nat.log2_self_le hzero) hdiv)
        omega
    calc roundUnits num den
        ≤ 2 ^ (num' / den).log2 := roundUnits_le_two_pow hlt
      _ ≤ roundUnits num' den := two_pow_le_roundUnits (Nat.log2_self_le hne)

/-! ## Doubles -/

namespace Binary64

variable {negative : Bool} {num den m j : Nat} {d : Binary64}

theorem one_pos : 0 < one := by
  unfold one
  apply Nat.two_pow_pos

theorem ofUnits?_eq_some :
    ofUnits? negative num den = some d ↔ d.negative = negative ∧ d.units = roundUnits num den := by
  unfold ofUnits?
  constructor
  · intro h
    split at h
    · obtain rfl := Option.some.inj h
      exact ⟨rfl, rfl⟩
    · cases h
  · rintro ⟨rfl, hunits⟩
    rw [dif_pos (hunits ▸ d.bounded)]
    obtain ⟨negative, units, hbounded, hsignificant⟩ := d
    obtain rfl : units = roundUnits num den := hunits
    rfl

/-- **A whole number is read as the double nearest to it**, unless that is out of range. That the
reading answers for many digits without a look at them makes no difference. -/
theorem ofDecimal?_whole (negative : Bool) (m : Nat) :
    ofDecimal? ⟨negative, m, 0⟩ = ofUnits? negative (m * one) 1 := by
  have hscale : ((Nat.toDigits 10 m).length : Int) + 0 = (Nat.toDigits 10 m).length := by omega
  simp only [ofDecimal?, hscale]
  by_cases hzero : m = 0
  · subst hzero
    rw [if_pos (Or.inl rfl)]
    have hround : roundUnits (0 * one) 1 = 0 := by
      rw [Nat.zero_mul]
      decide
    exact (ofUnits?_eq_some.2 ⟨rfl, hround.symm⟩).symm
  · rw [if_neg (by omega)]
    split
    · rename_i hmany
      have hlarge : 10 ^ 310 ≤ m := by
        refine Nat.not_lt.1 fun hlt => ?_
        have hfew : (Nat.toDigits 10 m).length ≤ 310 :=
          (Nat.length_toDigits_le_iff (by decide) (by decide)).2 hlt
        omega
      have hlimit : limit ≤ m * one / 1 := by
        obtain ⟨b, hb, hbm⟩ : ∃ b, limit ≤ b * one ∧ b ≤ m :=
          ⟨10 ^ 310, by decide +kernel, hlarge⟩
        rw [Nat.div_one]
        exact Nat.le_trans hb (Nat.mul_le_mul_right one hbm)
      have hround : ¬ roundUnits (m * one) 1 < limit := by
        rw [limit] at hlimit ⊢
        exact Nat.not_lt.2 (two_pow_le_roundUnits hlimit)
      rw [ofUnits?, dif_neg hround]
    · show ofUnits? negative (m * 10 ^ 0 * one) 1 = _
      rw [Nat.pow_zero, Nat.mul_one]

/-- The number that a whole number is rounded to, without a fraction. -/
def rounded (m : Nat) : Nat :=
  roundUnits (m * one) 1 / one

theorem rounded_mono {m m' : Nat} (h : m ≤ m') : rounded m ≤ rounded m' :=
  Nat.div_le_div_right (roundUnits_mono (Nat.mul_le_mul_right one h))

theorem two_pow_le_rounded (h : 2 ^ j ≤ m) : 2 ^ j ≤ rounded m := by
  have hunits : 2 ^ j * one = 2 ^ (j + 1074) := by rw [Nat.pow_add, one]
  have hle : 2 ^ (j + 1074) ≤ m * one / 1 := by
    rw [Nat.div_one, ← hunits]
    exact Nat.mul_le_mul_right one h
  rw [rounded, Nat.le_div_iff_mul_le one_pos, hunits]
  exact two_pow_le_roundUnits hle

/-- What a whole number is read as has the integer part that the number is rounded to. -/
theorem of_ofDecimal?_whole (h : ofDecimal? ⟨negative, m, 0⟩ = some d) :
    d.whole = if negative then -(rounded m : Int) else rounded m := by
  rw [ofDecimal?_whole, ofUnits?_eq_some] at h
  rw [whole, h.1, h.2]
  rfl

/-- A whole number that is not too large to be a double is read. -/
theorem exists_ofDecimal?_whole (negative : Bool) (h : m < 2 ^ j) (hj : j < 1024) :
    ∃ d, ofDecimal? ⟨negative, m, 0⟩ = some d := by
  have hunits : m * one / 1 < 2 ^ (j + 1074) := by
    rw [Nat.div_one, Nat.pow_add, ← one]
    exact Nat.mul_lt_mul_of_pos_right h one_pos
  have hwidth : j + 1074 < width := Nat.add_lt_add_right hj 1074
  have hlimit : roundUnits (m * one) 1 < limit :=
    Nat.lt_of_le_of_lt (roundUnits_le_two_pow hunits) (Nat.pow_lt_pow_right (by decide) hwidth)
  rw [ofDecimal?_whole]
  exact ⟨_, dif_pos hlimit⟩

end Binary64

end RegionClient
