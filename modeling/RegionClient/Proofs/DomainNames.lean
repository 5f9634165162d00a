import RegionClient.Proofs.EncodedTexts
import RegionClient.Proofs.Segments
import RegionClient.Url.Host

set_option autoImplicit false

/-! # Domain names are read back

What is relied on of the ASCII form of domain names, whoever gives it, is that it can stand as a
host and is its own ASCII form, and that it is a matter of small letters where no tables are needed
(`DomainForm.Lawful`). A name that is read is then read as itself.

Main statements: `DomainForm.lawful_plain`, `Host.domain?_again`.
-/

namespace RegionClient

namespace DomainForm

/-- **What is relied on** of the ASCII form of domain names. -/
structure Lawful (domains : DomainForm) : Prop where
  /-- A name for which no tables are needed is put in small letters. -/
  plain : ∀ s, isPlain s = true → domains s = some (s.map Char.toLower)
  /-- An ASCII form has only characters that it may have. -/
  allowed : ∀ s d, domains s = some d → ∀ c ∈ d, isAllowed c = true
  /-- An ASCII form is its own. -/
  again : ∀ s d, domains s = some d → domains d = some d

theorem lt_of_isAllowed {c : Char} (h : isAllowed c = true) : 0x20 < c.toNat ∧ c.toNat < 0x7F := by
  simp only [isAllowed, Bool.and_eq_true, decide_eq_true_eq] at h
  exact h.1

/-- The small letter of a character that is allowed is allowed, is small, and is no point if the
character is none. -/
theorem isAllowed_toLower {c : Char} (h : isAllowed c = true) : isAllowed c.toLower = true ∧
    c.toLower.toLower = c.toLower ∧ (c.toLower == '.') = (c == '.') :=
  of_toNat_lt (P := fun c => isAllowed c = true → isAllowed c.toLower = true ∧
    c.toLower.toLower = c.toLower ∧ (c.toLower == '.') = (c == '.'))
    (by decide +kernel) (lt_of_isAllowed h).2 h

theorem isPlain_iff {s : List Char} : isPlain s = true ↔
    (∀ c ∈ s, isAllowed c = true) ∧ ∀ l ∈ Text.pieces (· == '.') s, isMarked l = false := by
  simp [isPlain]

/-- In small letters, a plain name is plain, and the same as before in small letters. -/
theorem isPlain_toLower {s : List Char} (h : isPlain s = true) :
    isPlain (s.map Char.toLower) = true ∧ (s.map Char.toLower).map Char.toLower =
      s.map Char.toLower := by
  obtain ⟨hchars, hlabels⟩ := isPlain_iff.mp h
  refine ⟨isPlain_iff.mpr ⟨?_, ?_⟩, ?_⟩
  · exact List.forall_mem_map.mpr fun c hc => (isAllowed_toLower (hchars c hc)).1
  · rw [Text.pieces_map fun c hc => (isAllowed_toLower (hchars c hc)).2.2]
    refine List.forall_mem_map.mpr fun l hl => ?_
    -- The beginning of a label is compared in small letters anyway.
    have hsmall : (l.take 4).map (Char.toLower ∘ Char.toLower) = (l.take 4).map Char.toLower :=
      List.map_congr_left fun c hc => by
        have hmem := (Text.of_mem_pieces hl (List.mem_of_mem_take hc)).1
        exact (isAllowed_toLower (hchars c hmem)).2.1
    rw [isMarked, ← List.map_take, List.map_map, hsmall]
    exact hlabels l hl
  · rw [List.map_map]
    exact List.map_congr_left fun c hc => (isAllowed_toLower (hchars c hc)).2.1

/-- What is relied on holds where only plain names are known. -/
theorem lawful_plain : Lawful plain where
  plain s hs := if_pos hs
  allowed s d h := by
    unfold plain at h
    split at h
    · rename_i hs
      obtain rfl := Option.some.inj h
      exact (isPlain_iff.mp (isPlain_toLower hs).1).1
    · cases h
  again s d h := by
    unfold plain at h
    split at h
    · rename_i hs
      obtain rfl := Option.some.inj h
      obtain ⟨hplain, hsmall⟩ := isPlain_toLower hs
      rw [plain, if_pos hplain, hsmall]
    · cases h

end DomainForm

namespace Host

variable {domains : DomainForm} {s d : List Char}

/-- Nothing is percent-encoded in a name of characters that an ASCII form may have. -/
theorem domain?_of_allowed (hd : ∀ c ∈ d, DomainForm.isAllowed c = true) :
    domain? domains d = domains d := by
  have hplain : ∀ c ∈ d, (!(c.toNat < 128 && c != '%')) = false := by
    intro c hc
    have hne : c ≠ '%' := by
      rintro rfl
      cases hd _ hc
    have hlt := (DomainForm.lt_of_isAllowed (hd c hc)).2
    have hascii : c.toNat < 128 := by omega
    simp [hascii, hne]
  have hkept : ∀ c : Char, (!(c.toNat < 128 && c != '%')) = false → c.toNat < 128 ∧ c ≠ '%' := by
    simp
  have hdecode := Percent.decodeText?_encode hkept (String.ofList d)
  rw [String.toList_ofList, Percent.encode_plain hplain] at hdecode
  rw [domain?, hdecode, Option.bind_some, String.toList_ofList]

/-- **A domain name that is read is read as itself.** -/
theorem domain?_again (hdomains : domains.Lawful) (h : domain? domains s = some d) :
    domain? domains d = some d ∧ ∀ c ∈ d, DomainForm.isAllowed c = true := by
  obtain ⟨t, -, ht⟩ := Option.bind_eq_some_iff.mp h
  have hchars := hdomains.allowed _ _ ht
  rw [domain?_of_allowed hchars]
  exact ⟨hdomains.again _ _ ht, hchars⟩

end Host

end RegionClient
