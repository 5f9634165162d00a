import RegionClient.Proofs.ForcedIntegers

set_option autoImplicit false

/-! # Integers that several checkers take

Four checkers read integers, each in a way of its own: signed or unsigned, strictly or by force.
What two of them take a value for is the same integer wherever their ranges overlap:
`Checker.integers_agree`.

They part at zero: a number between minus one and zero is cut to zero as a signed integer, and is
refused as an unsigned one.
-/

namespace RegionClient

/-! ## Doubles -/

namespace Binary64

variable {d : Binary64}

theorem isBelowZero_of_pos (h : 0 < d.whole) : d.isBelowZero = false := by
  unfold whole at h
  generalize d.units / one = quotient at h
  split at h
  · omega
  · rename_i hsign
    simp [isBelowZero, hsign]

/-- A number without a fraction is below zero if its integer part is. -/
theorem isBelowZero_of_isWhole (hwhole : d.isWhole = true) (h : 0 ≤ d.whole) :
    d.isBelowZero = false := by
  unfold whole at h
  split at h
  · rename_i hsign
    have hdvd : d.units % one = 0 := by simpa [isWhole] using hwhole
    have hquotient : d.units / one = 0 := by
      generalize d.units / one = quotient at h ⊢
      omega
    have hunits : d.units = 0 := by
      have hsplit := Nat.div_add_mod d.units one
      rw [hquotient, hdvd] at hsplit
      omega
    simp [isBelowZero, hunits]
  · rename_i hsign
    simp [isBelowZero, hsign]

end Binary64

namespace Checker

variable {v w : Json} {m n : Int} {d : Binary64}

/-! ## Ranges -/

theorem inUnsigned_of_inSigned (h : inSigned m = some n) (hn : 1 ≤ n) : inUnsigned m = some n := by
  obtain ⟨rfl, hlow, hhigh⟩ := inSigned_eq_some.mp h
  exact inUnsigned_eq_some.mpr ⟨rfl, by omega, by omega⟩

theorem inSigned_of_inUnsigned (h : inUnsigned m = some n) (hn : n < 2 ^ 63) :
    inSigned m = some n := by
  obtain ⟨rfl, hlow, hhigh⟩ := inUnsigned_eq_some.mp h
  exact inSigned_eq_some.mpr ⟨rfl, by omega, hn⟩

theorem cutUnsigned_of_cutSigned (h : cutSigned d = some n) (hn : 1 ≤ n) :
    cutUnsigned d = some n := by
  obtain ⟨hwhole, -⟩ := inSigned_eq_some.mp h
  have hsign : d.isBelowZero = false := Binary64.isBelowZero_of_pos (by omega)
  rw [cutUnsigned, hsign]
  exact inUnsigned_of_inSigned h hn

theorem cutSigned_of_cutUnsigned (h : cutUnsigned d = some n) (hn : n < 2 ^ 63) :
    cutSigned d = some n := by
  unfold cutUnsigned at h
  split at h
  · cases h
  · exact inSigned_of_inUnsigned h hn

/-! ## Texts -/

/-- A text is that of an integer, or is read through a double only. -/
theorem forced_text_cases (s : String) :
    (∃ n, Numeral.Signed (Text.trimmed s.toList) n) ∨
      forcedInt? (.string s) = (double? (Text.trimmed s.toList)).bind cutSigned ∧
      forcedUint? (.string s) = (double? (Text.trimmed s.toList)).bind cutUnsigned := by
  cases hread : Numeral.integer? (Text.trimmed s.toList) with
  | some n => exact .inl ⟨n, Numeral.integer?_eq_some.mp hread⟩
  | none =>
    refine .inr ⟨?_, ?_⟩
    · simp [forcedInt?, Numeral.signed?, hread]
    · simp [forcedUint?, Numeral.unsigned?_eq_none hread]

/-! ## Two checkers -/

theorem forcedInt?_of_int? (h : int? v = some n) : forcedInt? v = some n := by
  cases v with
  | integer m => exact h
  | double d =>
    rw [int?] at h
    split at h
    · exact h
    · cases h
  | _ => cases h

theorem forcedUint?_of_uint? (h : uint? v = some n) : forcedUint? v = some n := by
  cases v with
  | integer m => exact h
  | double d =>
    rw [uint?] at h
    split at h
    · rename_i hwhole
      obtain ⟨heq, hlow, -⟩ := inUnsigned_eq_some.mp h
      have hsign : d.isBelowZero = false := Binary64.isBelowZero_of_isWhole hwhole (by omega)
      rw [forcedUint?, cutUnsigned, hsign]
      exact h
    · cases h
  | _ => cases h

theorem uint?_of_int? (h : int? v = some n) (hn : 1 ≤ n) : uint? v = some n := by
  cases v with
  | integer m => exact inUnsigned_of_inSigned h hn
  | double d =>
    rw [int?] at h
    split at h
    · rename_i hwhole
      rw [uint?, if_pos hwhole]
      exact inUnsigned_of_inSigned h hn
    · cases h
  | _ => cases h

theorem int?_of_uint? (h : uint? v = some n) (hn : n < 2 ^ 63) : int? v = some n := by
  cases v with
  | integer m => exact inSigned_of_inUnsigned h hn
  | double d =>
    rw [uint?] at h
    split at h
    · rename_i hwhole
      rw [int?, if_pos hwhole]
      exact inSigned_of_inUnsigned h hn
    · cases h
  | _ => cases h

theorem forcedUint?_of_forcedInt? (h : forcedInt? v = some n) (hn : 1 ≤ n) :
    forcedUint? v = some n := by
  cases v with
  | integer m => exact inUnsigned_of_inSigned h hn
  | double d => exact cutUnsigned_of_cutSigned h hn
  | string s =>
    rcases forced_text_cases s with ⟨m, hm⟩ | ⟨hsigned, hunsigned⟩
    · -- What is taken for the least signed integer is not above zero.
      rw [forcedInt?_of_signed hm] at h
      rw [forcedUint?_of_signed hm, inUnsigned_eq_some]
      split at h
      · obtain rfl := Option.some.inj h
        exact ⟨rfl, by omega, by omega⟩
      · split at h
        · obtain rfl := Option.some.inj h
          omega
        · cases h
    · rw [hsigned] at h
      obtain ⟨d, hd, hcut⟩ := Option.bind_eq_some_iff.mp h
      rw [hunsigned, hd]
      exact cutUnsigned_of_cutSigned hcut hn
  | _ => cases h

theorem forcedInt?_of_forcedUint? (h : forcedUint? v = some n) (hn : n < 2 ^ 63) :
    forcedInt? v = some n := by
  cases v with
  | integer m => exact inSigned_of_inUnsigned h hn
  | double d => exact cutSigned_of_cutUnsigned h hn
  | string s =>
    rcases forced_text_cases s with ⟨m, hm⟩ | ⟨hsigned, hunsigned⟩
    · rw [forcedUint?_of_signed hm] at h
      obtain ⟨rfl, hlow, -⟩ := inUnsigned_eq_some.mp h
      rw [forcedInt?_of_signed hm, if_pos ⟨by omega, hn⟩]
    · rw [hunsigned] at h
      obtain ⟨d, hd, hcut⟩ := Option.bind_eq_some_iff.mp h
      rw [hsigned, hd]
      exact cutSigned_of_cutUnsigned hcut hn
  | _ => cases h

/-- **The integer checkers agree** wherever their ranges overlap. What a strict checker takes, the
forced one takes for the same integer; what a signed checker takes for an integer from one on, the
unsigned one does; and what an unsigned checker takes for one below `2 ^ 63`, the signed one does.
All that they give are integers. -/
theorem integers_agree (v : Json) :
    (∀ w, int.coerce v = .ok w → (∃ n, w = .integer n) ∧ forcedInt.coerce v = .ok w) ∧
    (∀ w, uint.coerce v = .ok w → (∃ n, w = .integer n) ∧ forcedUint.coerce v = .ok w) ∧
    (∀ n, 1 ≤ n →
      (int.coerce v = .ok (.integer n) → uint.coerce v = .ok (.integer n)) ∧
      (forcedInt.coerce v = .ok (.integer n) → forcedUint.coerce v = .ok (.integer n))) ∧
    (∀ n, n < 2 ^ 63 →
      (uint.coerce v = .ok (.integer n) → int.coerce v = .ok (.integer n)) ∧
      (forcedUint.coerce v = .ok (.integer n) → forcedInt.coerce v = .ok (.integer n))) := by
  simp only [coerce, coerceAt]
  refine ⟨?_, ?_, fun n hn => ⟨?_, ?_⟩, fun n hn => ⟨?_, ?_⟩⟩
  · intro w h
    obtain ⟨n, hread, rfl⟩ := integerOr_ok h
    exact ⟨⟨n, rfl⟩, integerOr_some (forcedInt?_of_int? hread) ..⟩
  · intro w h
    obtain ⟨n, hread, rfl⟩ := integerOr_ok h
    exact ⟨⟨n, rfl⟩, integerOr_some (forcedUint?_of_uint? hread) ..⟩
  · intro h
    obtain ⟨_, hread, ⟨⟩⟩ := integerOr_ok h
    exact integerOr_some (uint?_of_int? hread hn) ..
  · intro h
    obtain ⟨_, hread, ⟨⟩⟩ := integerOr_ok h
    exact integerOr_some (forcedUint?_of_forcedInt? hread hn) ..
  · intro h
    obtain ⟨_, hread, ⟨⟩⟩ := integerOr_ok h
    exact integerOr_some (int?_of_uint? hread hn) ..
  · intro h
    obtain ⟨_, hread, ⟨⟩⟩ := integerOr_ok h
    exact integerOr_some (forcedInt?_of_forcedUint? hread hn) ..

theorem integers_agree_ends :
    (int.coerce (.integer (2 ^ 63 - 1)) = .ok (.integer (2 ^ 63 - 1)) ∧
      forcedInt.coerce (.integer (2 ^ 63 - 1)) = .ok (.integer (2 ^ 63 - 1)) ∧
      uint.coerce (.integer (2 ^ 63 - 1)) = .ok (.integer (2 ^ 63 - 1))) ∧
    (forcedInt.coerce (.string " +4.55e1") = .ok (.integer 45) ∧
      forcedUint.coerce (.string " +4.55e1") = .ok (.integer 45)) ∧
    (forcedUint.coerce (.string "-0.0") = .ok (.integer 0) ∧
      forcedInt.coerce (.string "-0.0") = .ok (.integer 0)) := by
  have hgreatest : int.coerce (.integer (2 ^ 63 - 1)) = .ok (.integer (2 ^ 63 - 1)) := rfl
  have htext : forcedInt.coerce (.string " +4.55e1") = .ok (.integer 45) := by
    have hread : forcedInt? (.string " +4.55e1") = some 45 := by decide +kernel
    rw [coerce, coerceAt, hread]
    rfl
  have hzero : forcedUint.coerce (.string "-0.0") = .ok (.integer 0) := by
    have hread : forcedUint? (.string "-0.0") = some 0 := by decide +kernel
    rw [coerce, coerceAt, hread]
    rfl
  refine ⟨⟨hgreatest, ?_, ?_⟩, ⟨htext, ?_⟩, hzero, ?_⟩
  · exact ((integers_agree _).1 _ hgreatest).2
  · exact ((integers_agree _).2.2.1 _ (by decide)).1 hgreatest
  · exact ((integers_agree _).2.2.1 _ (by decide)).2 htext
  · exact ((integers_agree _).2.2.2 _ (by decide)).2 hzero

end Checker

end RegionClient
