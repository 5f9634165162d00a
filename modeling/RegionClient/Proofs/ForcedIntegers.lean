import RegionClient.Proofs.Rounding
import RegionClient.Proofs.StrictForms
import RegionClient.Proofs.Texts

set_option autoImplicit false

/-! # Numerals as forced integers

A forced integer may come as a text. A numeral in range is read digit by digit. Any other is read
again, as a double that is cut to an integer, and whether it is refused then depends on where the
doubles lie at the ends of the range.

* Above the ranges the next double is the end of the range itself, which is refused. Below zero
  every double is refused as an unsigned integer, and the negative zero is not below zero. So a
  numeral is taken as an unsigned integer exactly if its number is in range:
  `Checker.forcedUint_numeral`.
* The least signed integer is a double and is in range, and the next double below is 2048 away. So
  the 1024 numbers below the range are rounded up to its end and taken for it:
  `Checker.forcedInt_numeral`.
-/

namespace RegionClient

/-! ## Numerals -/

namespace Numeral

/-- The digits of a number after some zeros. -/
def padded (zeros n : Nat) : List Char :=
  List.replicate zeros '0' ++ Nat.toDigits 10 n

/-- The decimal numerals of an integer: its digits after any number of zeros, with a minus if it is
below zero, and with a plus or not if it is above. Zero takes either sign. -/
inductive Writes : List Char → Int → Prop where
  | bare (zeros n : Nat) : Writes (padded zeros n) n
  | plus (zeros n : Nat) : Writes ('+' :: padded zeros n) n
  | minus (zeros n : Nat) : Writes ('-' :: padded zeros n) (-(n : Int))

/-- The text is a decimal numeral of the integer, with any blanks around it. -/
def Denotes (s : String) (n : Int) : Prop :=
  ∃ before t after : List Char, (∀ c ∈ before, Text.isBlank c = true) ∧
    (∀ c ∈ after, Text.isBlank c = true) ∧ s.toList = before ++ t ++ after ∧ Writes t n

/-! ## Reading -/

theorem value_zeros (zeros : Nat) (s : List Char) :
    value (List.replicate zeros '0' ++ s) = value s := by
  induction zeros with
  | zero => rfl
  | succ k ih =>
      rw [List.replicate_succ, List.cons_append]
      exact ih

theorem isDigit_padded {zeros n : Nat} {d : Char} (h : d ∈ padded zeros n) :
    d.isDigit = true := by
  rcases List.mem_append.mp h with h | h
  · rw [List.eq_of_mem_replicate h]
    decide
  · exact isDigit_toDigits h

theorem padded_ne_nil (zeros n : Nat) : padded zeros n ≠ [] :=
  List.append_ne_nil_of_right_ne_nil _ Nat.toDigits_ne_nil

theorem value_padded (zeros n : Nat) : value (padded zeros n) = n := by
  rw [padded, value_zeros]
  exact Nat.ofDigitChars_toDigits (by decide) (by decide)

theorem natural?_padded (zeros n : Nat) : natural? (padded zeros n) = some n := by
  have hdigits : (padded zeros n).all Char.isDigit = true :=
    List.all_eq_true.mpr fun d hd => isDigit_padded hd
  simp [natural?, padded_ne_nil, hdigits, value_padded]

/-- Digits without a point and an exponent are a fraction of scale zero. -/
theorem fraction?_of_natural? {s : List Char} {m : Nat} (h : natural? s = some m)
    (negative : Bool) : fraction? negative s = some ⟨negative, m, 0⟩ := by
  obtain ⟨hne, hdigits, rfl⟩ := natural?_eq_some.mp h
  have htake : s.takeWhile Char.isDigit = s := List.takeWhile_eq_self_iff.mpr hdigits
  have hdrop : s.dropWhile Char.isDigit = [] := List.dropWhile_eq_nil_iff.mpr hdigits
  simp [fraction?, htake, hdrop, hne, exponent?]

/-- An integer is read from digits after no sign or one. -/
inductive Signed : List Char → Int → Prop where
  | bare {d : Char} {s : List Char} {m : Nat} (h : natural? (d :: s) = some m) (hplus : d ≠ '+')
      (hminus : d ≠ '-') : Signed (d :: s) m
  | plus {s : List Char} {m : Nat} (h : natural? s = some m) : Signed ('+' :: s) m
  | minus {s : List Char} {m : Nat} (h : natural? s = some m) : Signed ('-' :: s) (-(m : Int))

theorem Signed.of_natural? {s : List Char} {m : Nat} (h : natural? s = some m) : Signed s m := by
  obtain ⟨hne, hdigits, -⟩ := natural?_eq_some.mp h
  obtain ⟨d, rest, rfl, hplus, hminus⟩ := exists_cons_of_digits hne hdigits
  exact .bare h hplus hminus

theorem integer?_eq_some {t : List Char} {n : Int} : integer? t = some n ↔ Signed t n := by
  constructor
  · intro h
    unfold integer? at h
    split at h
    · rename_i s
      obtain ⟨m, hm, rfl⟩ : ∃ m, natural? s = some m ∧ -(m : Int) = n := by
        simpa [Option.bind_eq_some_iff] using h
      exact .minus hm
    · rename_i s
      obtain ⟨m, hm, rfl⟩ : ∃ m, natural? s = some m ∧ (m : Int) = n := by
        simpa [Option.bind_eq_some_iff] using h
      exact .plus hm
    · obtain ⟨m, hm, rfl⟩ : ∃ m, natural? t = some m ∧ (m : Int) = n := by
        simpa [Option.bind_eq_some_iff] using h
      exact .of_natural? hm
  · intro h
    cases h with
    | bare h hplus hminus => simp [integer?, hplus, hminus, h]
    | plus h => simp [integer?, h]
    | minus h => simp [integer?, h]

namespace Signed

variable {t : List Char} {n : Int}

/-- The digits after the sign are all that a whole number has. -/
theorem decimal?_eq (h : Signed t n) : ∃ negative m,
    decimal? t = some ⟨negative, m, 0⟩ ∧ n = if negative then -(m : Int) else m := by
  cases h with
  | @bare d s m h hplus hminus =>
      have hread := fraction?_of_natural? h false
      exact ⟨false, m, by simp [decimal?, hplus, hminus, hread], rfl⟩
  | @plus s m h => exact ⟨false, m, fraction?_of_natural? h false, rfl⟩
  | @minus s m h => exact ⟨true, m, fraction?_of_natural? h true, rfl⟩

/-- A number with a minus is no unsigned integer, not even zero. -/
theorem unsigned?_eq (h : Signed t n) (bits : Nat) :
    (∃ m : Nat, n = m ∧ unsigned? bits t = if m < 2 ^ bits then some m else none) ∨
      n ≤ 0 ∧ unsigned? bits t = none := by
  cases h with
  | @bare d s m h hplus _ =>
      exact Or.inl ⟨m, rfl, by simp [unsigned?, hplus, h, Option.filter_some]⟩
  | @plus s m h => exact Or.inl ⟨m, rfl, by simp [unsigned?, h, Option.filter_some]⟩
  | @minus s m h =>
      have hsign : natural? ('-' :: s) = none := by simp [natural?]
      exact Or.inr ⟨by omega, by simp [unsigned?, hsign]⟩

end Signed

/-- What is no integer is no unsigned one. -/
theorem unsigned?_eq_none {t : List Char} (h : integer? t = none) (bits : Nat) :
    unsigned? bits t = none := by
  have hnone {s : List Char} (hs : ∀ m : Nat, natural? s = some m → Signed t m) :
      natural? s = none := by
    refine Option.eq_none_iff_forall_ne_some.mpr fun m hm => ?_
    have hread := integer?_eq_some.mpr (hs m hm)
    rw [h] at hread
    cases hread
  unfold unsigned?
  split
  · simp [hnone fun _ => Signed.plus]
  · simp [hnone fun _ => Signed.of_natural?]

namespace Writes

variable {t : List Char} {n : Int}

theorem not_isBlank (h : Writes t n) : ∀ c ∈ t, Text.isBlank c = false := by
  have hdigits {zeros m : Nat} {c : Char} (hc : c ∈ padded zeros m) : Text.isBlank c = false :=
    not_isBlank_of_isDigit (isDigit_padded hc)
  intro c hc
  cases h with
  | bare zeros m => exact hdigits hc
  | plus zeros m =>
      rcases List.mem_cons.mp hc with rfl | hc
      · decide
      · exact hdigits hc
  | minus zeros m =>
      rcases List.mem_cons.mp hc with rfl | hc
      · decide
      · exact hdigits hc

/-- What is written for an integer is read as that integer. -/
theorem signed (h : Writes t n) : Signed t n := by
  cases h with
  | bare zeros m => exact .of_natural? (natural?_padded zeros m)
  | plus zeros m => exact .plus (natural?_padded zeros m)
  | minus zeros m => exact .minus (natural?_padded zeros m)

end Writes

theorem Denotes.writes {s : String} {n : Int} (h : Denotes s n) :
    Writes (Text.trimmed s.toList) n := by
  obtain ⟨before, t, after, hbefore, hafter, hs, ht⟩ := h
  rwa [hs, Text.trimmed_padded t hbefore hafter, Text.trimmed_of_no_blank ht.not_isBlank]

end Numeral

/-! ## Doubles around the ends of the ranges -/

namespace Checker

variable {negative : Bool} {m : Nat} {n : Int} {s : String} {d : Binary64}

theorem cutUnsigned_eq_none (h : ¬ (0 ≤ d.whole ∧ d.whole < 2 ^ 64)) : cutUnsigned d = none := by
  unfold cutUnsigned
  split
  · rfl
  · exact if_neg h

theorem cutUnsigned_large (h : 2 ^ 64 ≤ m) :
    (Binary64.ofDecimal? ⟨negative, m, 0⟩).bind cutUnsigned = none := by
  refine Option.bind_eq_none_iff.mpr fun d hd => cutUnsigned_eq_none ?_
  have hrounded : 2 ^ 64 ≤ Binary64.rounded m := Binary64.two_pow_le_rounded h
  rw [Binary64.of_ofDecimal?_whole hd]
  split <;> omega

/-- No negative number is rounded to zero. -/
theorem cutUnsigned_negative (h : 0 < m) :
    (Binary64.ofDecimal? ⟨true, m, 0⟩).bind cutUnsigned = none := by
  refine Option.bind_eq_none_iff.mpr fun d hd => cutUnsigned_eq_none ?_
  have hrounded : 2 ^ 0 ≤ Binary64.rounded m := Binary64.two_pow_le_rounded h
  rw [Binary64.of_ofDecimal?_whole hd, if_pos rfl]
  omega

/-- The negative zero is not below zero. -/
theorem cutUnsigned_zero : (Binary64.ofDecimal? ⟨negative, 0, 0⟩).bind cutUnsigned = some 0 := by
  cases negative <;> decide +kernel

theorem cutSigned_large (h : 2 ^ 63 ≤ m) :
    (Binary64.ofDecimal? ⟨false, m, 0⟩).bind cutSigned = none := by
  refine Option.bind_eq_none_iff.mpr fun d hd => if_neg ?_
  have hrounded : 2 ^ 63 ≤ Binary64.rounded m := Binary64.two_pow_le_rounded h
  rw [Binary64.of_ofDecimal?_whole hd, if_neg Bool.false_ne_true]
  omega

/-- From 1025 below the range on, the nearest double lies below the range. -/
theorem cutSigned_farBelow (h : 2 ^ 63 + 1024 < m) :
    (Binary64.ofDecimal? ⟨true, m, 0⟩).bind cutSigned = none := by
  refine Option.bind_eq_none_iff.mpr fun d hd => if_neg ?_
  have hfirst : Binary64.rounded (2 ^ 63 + 1025) = 2 ^ 63 + 2048 := by decide +kernel
  have hrounded : Binary64.rounded (2 ^ 63 + 1025) ≤ Binary64.rounded m :=
    Binary64.rounded_mono h
  rw [Binary64.of_ofDecimal?_whole hd, if_pos rfl]
  omega

/-- Up to 1024 below the range, the nearest double is the least signed integer. -/
theorem cutSigned_below (h : 2 ^ 63 ≤ m) (h' : m ≤ 2 ^ 63 + 1024) :
    (Binary64.ofDecimal? ⟨true, m, 0⟩).bind cutSigned = some (-2 ^ 63) := by
  have hrounded : Binary64.rounded m = 2 ^ 63 := by
    have hlow : 2 ^ 63 ≤ Binary64.rounded m := Binary64.two_pow_le_rounded h
    have hhigh : Binary64.rounded m ≤ Binary64.rounded (2 ^ 63 + 1024) :=
      Binary64.rounded_mono h'
    -- Half way between two doubles, the even one is taken.
    have hlast : Binary64.rounded (2 ^ 63 + 1024) = 2 ^ 63 := by decide +kernel
    omega
  have hlt : m < 2 ^ 64 := by omega
  obtain ⟨d, hd⟩ := Binary64.exists_ofDecimal?_whole true hlt (by decide)
  have hwhole : d.whole = -2 ^ 63 := by
    rw [Binary64.of_ofDecimal?_whole hd, if_pos rfl, hrounded]
    rfl
  rw [hd, Option.bind_some, cutSigned, hwhole]
  decide

/-! ## Forced integers -/

/-- The text of an integer is cut to it, if it is in range. -/
theorem forcedUint?_of_signed (h : Numeral.Signed (Text.trimmed s.toList) n) :
    forcedUint? (.string s) = inUnsigned n := by
  obtain ⟨negative, m, hdecimal, hn⟩ := h.decimal?_eq
  simp only [forcedUint?, double?, hdecimal, Option.bind_some]
  rcases h.unsigned?_eq 64 with ⟨k, rfl, hread⟩ | ⟨hneg, hread⟩
  · rw [hread]
    by_cases hk : k < 2 ^ 64
    · have hin : inUnsigned k = some (k : Int) := if_pos (by omega)
      rw [if_pos hk, hin]
      rfl
    · have hout : inUnsigned k = none := if_neg (by omega)
      have hm : 2 ^ 64 ≤ m := by
        split at hn <;> omega
      rw [if_neg hk, hout, cutUnsigned_large hm]
      rfl
  · rw [hread]
    by_cases hzero : n = 0
    · have hm : m = 0 := by
        split at hn <;> omega
      rw [hm, hzero, cutUnsigned_zero]
      rfl
    · have hout : inUnsigned n = none := if_neg (by omega)
      cases negative with
      | false =>
          have hn : n = m := hn
          omega
      | true =>
          have hn : n = -(m : Int) := hn
          rw [hout, cutUnsigned_negative (by omega)]
          rfl

/-- The text of an integer is cut to it, if it is in range, or to the least signed integer, if it is
at most 1024 below the range. -/
theorem forcedInt?_of_signed (h : Numeral.Signed (Text.trimmed s.toList) n) :
    forcedInt? (.string s) =
      if -2 ^ 63 ≤ n ∧ n < 2 ^ 63 then some n
      else if -2 ^ 63 - 1024 ≤ n ∧ n < -2 ^ 63 then some (-2 ^ 63)
      else none := by
  obtain ⟨negative, m, hdecimal, hn⟩ := h.decimal?_eq
  have hinteger := Numeral.integer?_eq_some.mpr h
  simp only [forcedInt?, double?, hdecimal, Option.bind_some, Numeral.signed?, hinteger,
    Option.filter_some]
  by_cases hin : -2 ^ 63 ≤ n ∧ n < 2 ^ 63
  · have hread : (decide (-2 ^ (64 - 1) ≤ n) && decide (n < 2 ^ (64 - 1))) = true := by
      simpa using hin
    rw [if_pos hread, if_pos hin]
    rfl
  · have hread : ¬ (decide (-2 ^ (64 - 1) ≤ n) && decide (n < 2 ^ (64 - 1))) = true := by
      simpa using hin
    rw [if_neg hread, if_neg hin]
    show (Binary64.ofDecimal? ⟨negative, m, 0⟩).bind cutSigned = _
    cases negative with
    | false =>
        have hn : n = m := hn
        rw [cutSigned_large (by omega), if_neg (by omega)]
    | true =>
        have hn : n = -(m : Int) := hn
        by_cases hnear : m ≤ 2 ^ 63 + 1024
        · rw [cutSigned_below (by omega) hnear, if_pos (by omega)]
        · rw [cutSigned_farBelow (by omega), if_neg (by omega)]

theorem forcedUint?_numeral (h : Numeral.Denotes s n) : forcedUint? (.string s) = inUnsigned n :=
  forcedUint?_of_signed h.writes.signed

theorem forcedInt?_numeral (h : Numeral.Denotes s n) :
    forcedInt? (.string s) =
      if -2 ^ 63 ≤ n ∧ n < 2 ^ 63 then some n
      else if -2 ^ 63 - 1024 ≤ n ∧ n < -2 ^ 63 then some (-2 ^ 63)
      else none :=
  forcedInt?_of_signed h.writes.signed

/-- **A numeral is taken as an unsigned integer exactly if its number is in range**, and as that
number. -/
theorem forcedUint_numeral (h : Numeral.Denotes s n) :
    forcedUint.coerce (.string s) =
      if 0 ≤ n ∧ n < 2 ^ 64 then .ok (.integer n)
      else .error (.mismatch [] "uint" (.string s)) := by
  rw [coerce, coerceAt, forcedUint?_numeral h, inUnsigned]
  split <;> rfl

theorem forcedUint_numeral_ends :
    (Numeral.Denotes "\t-00 " 0 ∧ forcedUint.coerce (.string "\t-00 ") = .ok (.integer 0)) ∧
    Numeral.Denotes "18446744073709551616" (2 ^ 64) ∧
      forcedUint.coerce (.string "18446744073709551616") =
        .error (.mismatch [] "uint" (.string "18446744073709551616")) := by
  have hzero : Numeral.Denotes "\t-00 " 0 :=
    ⟨['\t'], _, [' '], List.forall_mem_singleton.mpr rfl, List.forall_mem_singleton.mpr rfl,
      by decide, .minus 1 0⟩
  have hlimit : Numeral.Denotes "18446744073709551616" (2 ^ 64) :=
    ⟨[], _, [], nofun, nofun, by decide, .bare 0 (2 ^ 64)⟩
  exact ⟨⟨hzero, (forcedUint_numeral hzero).trans (if_pos (by decide))⟩,
    hlimit, (forcedUint_numeral hlimit).trans (if_neg (by decide))⟩

/-- **A numeral is taken as a signed integer if its number is in range**, and as that number. The
1024 numbers below the range are taken for its end, and all others are refused. -/
theorem forcedInt_numeral (h : Numeral.Denotes s n) :
    forcedInt.coerce (.string s) =
      if -2 ^ 63 ≤ n ∧ n < 2 ^ 63 then .ok (.integer n)
      else if -2 ^ 63 - 1024 ≤ n ∧ n < -2 ^ 63 then .ok (.integer (-2 ^ 63))
      else .error (.mismatch [] "int" (.string s)) := by
  rw [coerce, coerceAt, forcedInt?_numeral h]
  split
  · rfl
  · split <;> rfl

theorem forcedInt_numeral_farBelow :
    Numeral.Denotes " -009223372036854776833" (-2 ^ 63 - 1025) ∧
      forcedInt.coerce (.string " -009223372036854776833") =
        .error (.mismatch [] "int" (.string " -009223372036854776833")) := by
  have hfar : Numeral.Denotes " -009223372036854776833" (-2 ^ 63 - 1025) :=
    ⟨[' '], _, [], List.forall_mem_singleton.mpr rfl, nofun, by decide,
      .minus 2 (2 ^ 63 + 1025)⟩
  exact ⟨hfar, (forcedInt_numeral hfar).trans ((if_neg (by decide)).trans (if_neg (by decide)))⟩

/-- The greatest integer below the range is taken for another one. -/
theorem forcedInt_belowLeast :
    Numeral.Denotes "-9223372036854775809" (-2 ^ 63 - 1) ∧ ¬ (-2 ^ 63 ≤ (-2 ^ 63 - 1 : Int)) ∧
      forcedInt.coerce (.string "-9223372036854775809") = .ok (.integer (-2 ^ 63)) := by
  have hbelow : Numeral.Denotes "-9223372036854775809" (-2 ^ 63 - 1) :=
    ⟨[], _, [], nofun, nofun, by decide, .minus 0 (2 ^ 63 + 1)⟩
  have hcut : forcedInt? (.string "-9223372036854775809") = some (-2 ^ 63) :=
    (forcedInt?_numeral hbelow).trans (by decide)
  refine ⟨hbelow, by decide, ?_⟩
  rw [coerce, coerceAt, hcut]
  rfl

end Checker

end RegionClient
