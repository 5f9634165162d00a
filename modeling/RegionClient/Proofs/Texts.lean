import Mathlib.Data.List.Forall2
import Mathlib.Data.List.TakeWhile
import RegionClient.Version.Basic

set_option autoImplicit false

/-! # Texts that are written and read

What reading makes of a text that was written for it: blanks around a text are trimmed away, texts
put together with a separator are the pieces again, and a decimal numeral is read as the number it
was written for, if that is in range.

Main statements: `Text.trimmed_padded`, `Text.split_joined`, `Numeral.signed?_ofInt`,
`Numeral.unsigned?_ofInt`, `Version.parse?_text`.
-/

namespace RegionClient

/-- A list is read item by item, with what each stands for in its place. -/
theorem mapM_eq_some {α β : Type} {f : α → Option β} {l : List α} {bs : List β} :
    l.mapM f = some bs ↔ List.Forall₂ (fun a b => f a = some b) l bs := by
  induction l generalizing bs with
  | nil => simp [eq_comm]
  | cons a rest ih =>
    rw [List.mapM_cons, List.forall₂_cons_left_iff]
    simp only [bind, pure, Option.bind_eq_some_iff, Option.some.injEq, ih]
    constructor
    · rintro ⟨b, hb, more, hmore, rfl⟩
      exact ⟨b, more, hb, hmore, rfl⟩
    · rintro ⟨b, more, hb, hmore, rfl⟩
      exact ⟨b, hb, more, hmore, rfl⟩

/-- Where a list is read item by item, each result is read from one of them. -/
theorem of_mem_mapM {α β : Type} {f : α → Option β} {l : List α} {bs : List β}
    (h : l.mapM f = some bs) : ∀ b ∈ bs, ∃ a ∈ l, f a = some b := by
  intro b hb
  obtain ⟨i, hi, rfl⟩ := List.getElem_of_mem hb
  obtain ⟨hlength, hall⟩ := List.forall₂_iff_get.mp (mapM_eq_some.mp h)
  exact ⟨l[i], List.getElem_mem _, hall i (hlength ▸ hi) hi⟩

/-- What is checked number by number holds of every character below a bound. -/
theorem of_toNat_lt {b : Nat} {P : Char → Prop} (h : ∀ n < b, P (Char.ofNat n)) {c : Char}
    (hc : c.toNat < b) : P c := by
  have hp := h c.toNat hc
  rwa [Char.ofNat_toNat] at hp

/-! ## Trimming -/

namespace Text

/-- Blanks around a text make no difference to what is left of it. -/
theorem trimmed_padded {before after : List Char} (s : List Char)
    (hbefore : ∀ c ∈ before, isBlank c = true) (hafter : ∀ c ∈ after, isBlank c = true) :
    trimmed (before ++ s ++ after) = trimmed s := by
  have hreverse : ∀ c ∈ after.reverse, isBlank c = true := fun c hc =>
    hafter c (List.mem_reverse.mp hc)
  rw [trimmed, List.append_assoc, List.dropWhile_append_of_pos hbefore, List.dropWhile_append]
  split
  · rename_i hblank
    have hnil : s.dropWhile isBlank = [] := List.isEmpty_iff.mp hblank
    rw [List.dropWhile_eq_nil_iff.mpr hafter, trimmed, hnil]
  · rw [List.reverse_append, List.dropWhile_append_of_pos hreverse, trimmed]

/-- A text without blanks stays as it is. -/
theorem trimmed_of_no_blank {s : List Char} (h : ∀ c ∈ s, isBlank c = false) : trimmed s = s := by
  have hkept : ∀ t : List Char, (∀ c ∈ t, isBlank c = false) → t.dropWhile isBlank = t := by
    intro t ht
    refine List.dropWhile_eq_self_iff.mpr fun hpos => ?_
    simp [ht t[0] (List.getElem_mem hpos)]
  rw [trimmed, hkept s h, hkept s.reverse fun c hc => h c (List.mem_reverse.mp hc),
    List.reverse_reverse]

/-- Only blanks are trimmed away. -/
theorem exists_trimmed (s : List Char) : ∃ before after, (∀ c ∈ before, isBlank c = true) ∧
    (∀ c ∈ after, isBlank c = true) ∧ s = before ++ trimmed s ++ after := by
  have hblank (t : List Char) : ∀ c ∈ t.takeWhile isBlank, isBlank c = true := fun _ =>
    List.mem_takeWhile_imp
  let kept := s.dropWhile isBlank
  refine ⟨s.takeWhile isBlank, (kept.reverse.takeWhile isBlank).reverse, hblank s, ?_, ?_⟩
  · intro c hc
    exact hblank kept.reverse c (List.mem_reverse.mp hc)
  · have hkept : trimmed s ++ (kept.reverse.takeWhile isBlank).reverse = kept := by
      rw [trimmed, ← List.reverse_append, List.takeWhile_append_dropWhile, List.reverse_reverse]
    rw [List.append_assoc, hkept, List.takeWhile_append_dropWhile]

end Text

/-! ## Pieces -/

namespace Text

variable {isSeparator : Char → Bool} {p s : List Char} {c d : Char}

theorem pieces_eq_splitOnP (isSeparator : Char → Bool) (s : List Char) :
    pieces isSeparator s = s.splitOnP isSeparator := by
  induction s with
  | nil => rfl
  | cons c s ih =>
      obtain ⟨first, rest, hrest⟩ :=
        List.exists_cons_of_ne_nil (List.splitOnP_ne_nil isSeparator s)
      rw [pieces, List.splitOnP_cons_eq_if_modifyHead, ih, hrest]
      rfl

theorem pieces_append (hp : ∀ c ∈ p, isSeparator c = false) (hd : isSeparator d = true) :
    pieces isSeparator (p ++ d :: s) = p :: pieces isSeparator s := by
  rw [pieces_eq_splitOnP, pieces_eq_splitOnP]
  exact List.splitOnP_append_cons_of_forall_mem hp d hd s

/-- The pieces of a text have its characters, but no separator. -/
theorem of_mem_pieces (hp : p ∈ pieces isSeparator s) (hc : c ∈ p) :
    c ∈ s ∧ isSeparator c = false := by
  induction s generalizing p with
  | nil =>
      obtain rfl := List.mem_singleton.mp hp
      cases hc
  | cons d s ih =>
      have hrest : ∀ q ∈ pieces isSeparator s, c ∈ q → c ∈ d :: s ∧ isSeparator c = false := by
        intro q hq hcq
        obtain ⟨hmem, hno⟩ := ih hq hcq
        exact ⟨List.mem_cons_of_mem d hmem, hno⟩
      rw [pieces] at hp
      split at hp
      · rcases List.mem_cons.mp hp with rfl | hp
        · cases hc
        · exact hrest p hp hc
      · rename_i hd
        split at hp
        · obtain rfl := List.mem_singleton.mp hp
          obtain rfl := List.mem_singleton.mp hc
          exact ⟨List.mem_cons_self, Bool.eq_false_iff.mpr hd⟩
        · rename_i first rest hfirst
          rcases List.mem_cons.mp hp with rfl | hp
          · rcases List.mem_cons.mp hc with rfl | hc
            · exact ⟨List.mem_cons_self, Bool.eq_false_iff.mpr hd⟩
            · exact hrest first (hfirst ▸ List.mem_cons_self) hc
          · exact hrest p (hfirst ▸ List.mem_cons_of_mem first hp) hc

/-- A text without separators is one piece. -/
theorem pieces_of_no_separator (hp : ∀ c ∈ p, isSeparator c = false) :
    pieces isSeparator p = [p] := by
  rw [pieces_eq_splitOnP]
  exact List.splitOnP_eq_singleton hp

/-- What changes no separator, and makes none, can be done before or after the text is cut. -/
theorem pieces_map {f : Char → Char} (h : ∀ c ∈ s, isSeparator (f c) = isSeparator c) :
    pieces isSeparator (s.map f) = (pieces isSeparator s).map (List.map f) := by
  induction s with
  | nil => rfl
  | cons c s ih =>
      rw [List.map_cons, pieces, pieces, h c List.mem_cons_self,
        ih fun d hd => h d (List.mem_cons_of_mem c hd)]
      split
      · rfl
      · obtain ⟨first, rest, hrest⟩ := List.exists_cons_of_ne_nil (pieces_ne_nil isSeparator s)
        rw [hrest]
        rfl

/-- A text that is put together has the characters of its parts and of the separator. -/
theorem of_mem_joined {separator : String} {texts : List String}
    (h : c ∈ (joined separator texts).toList) :
    c ∈ separator.toList ∨ ∃ t ∈ texts, c ∈ t.toList := by
  induction texts with
  | nil => simp [joined] at h
  | cons t rest ih =>
    cases rest with
    | nil => exact .inr ⟨t, List.mem_cons_self, by simpa [joined] using h⟩
    | cons t' rest =>
      rw [toList_joined_cons, List.mem_append, List.mem_append] at h
      rcases h with h | h | h
      · exact .inr ⟨t, List.mem_cons_self, h⟩
      · exact .inl h
      · rcases ih h with h | ⟨u, hu, h⟩
        · exact .inl h
        · exact .inr ⟨u, List.mem_cons_of_mem t hu, h⟩

/-- Texts without the separator that are put together with it are the pieces again. No texts at all
would be one piece. -/
theorem split_joined {separator : String} (hseparator : separator.toList = [c])
    {texts : List String} (hne : texts ≠ []) (hfree : ∀ t ∈ texts, c ∉ t.toList) :
    split (· == c) (joined separator texts) = texts := by
  have hno {t : String} (ht : t ∈ texts) : ∀ d ∈ t.toList, (d == c) = false := by
    intro d hd
    have hdc : d ≠ c := fun h => hfree t ht (h ▸ hd)
    simpa using hdc
  induction texts with
  | nil => exact absurd rfl hne
  | cons t rest ih =>
    have ht := hno List.mem_cons_self
    cases rest with
    | nil => simp [joined, split, pieces_of_no_separator ht]
    | cons t' rest =>
      have hrest := ih (by simp) (fun u hu => hfree u (List.mem_cons_of_mem _ hu))
        fun hu => hno (List.mem_cons_of_mem _ hu)
      rw [split, toList_joined_cons, hseparator, List.singleton_append,
        pieces_append ht (by simp), List.map_cons, String.ofList_toList]
      exact congrArg (t :: ·) hrest

end Text

/-! ## Numerals -/

namespace Numeral

/-- What holds of the ten digits holds of every digit. -/
theorem of_isDigit {P : Char → Prop} (h : ∀ n < 10, P (Char.ofNat (48 + n))) {d : Char}
    (hd : d.isDigit = true) : P d := by
  simp only [Char.isDigit, Bool.and_eq_true, decide_eq_true_eq, UInt32.le_iff_toNat_le] at hd
  have hlow : 48 ≤ d.toNat := hd.1
  have hhigh : d.toNat ≤ 57 := hd.2
  have hp := h (d.toNat - 48) (by omega)
  rwa [show 48 + (d.toNat - 48) = d.toNat by omega, Char.ofNat_toNat] at hp

theorem not_isBlank_of_isDigit {d : Char} (h : d.isDigit = true) : Text.isBlank d = false :=
  of_isDigit (P := fun d => Text.isBlank d = false) (by decide) h

theorem isDigit_toDigits {n : Nat} {d : Char} (h : d ∈ Nat.toDigits 10 n) : d.isDigit = true :=
  Nat.isDigit_of_mem_toDigits (by decide) (by decide) h

/-- The numeral of a number is read as that number. -/
theorem natural?_toDigits (n : Nat) : natural? (Nat.toDigits 10 n) = some n := by
  have hdigits : (Nat.toDigits 10 n).all Char.isDigit = true :=
    List.all_eq_true.mpr fun d hd => isDigit_toDigits hd
  have hvalue : value (Nat.toDigits 10 n) = n :=
    Nat.ofDigitChars_toDigits (by decide) (by decide)
  simp [natural?, Nat.toDigits_ne_nil, hdigits, hvalue]

theorem natural?_eq_some {s : List Char} {m : Nat} :
    natural? s = some m ↔ s ≠ [] ∧ (∀ d ∈ s, d.isDigit = true) ∧ value s = m := by
  simp [natural?, and_assoc]

/-- Digits begin with no sign. -/
theorem exists_cons_of_digits {s : List Char} (hne : s ≠ []) (hs : ∀ d ∈ s, d.isDigit = true) :
    ∃ d rest, s = d :: rest ∧ d ≠ '+' ∧ d ≠ '-' := by
  obtain ⟨d, rest, rfl⟩ := List.exists_cons_of_ne_nil hne
  have hd : d.isDigit = true := hs d List.mem_cons_self
  exact ⟨d, rest, rfl, of_isDigit (P := (· ≠ '+')) (by decide) hd,
    of_isDigit (P := (· ≠ '-')) (by decide) hd⟩

theorem toDigits_cons (n : Nat) :
    ∃ d rest, Nat.toDigits 10 n = d :: rest ∧ d ≠ '+' ∧ d ≠ '-' :=
  exists_cons_of_digits Nat.toDigits_ne_nil fun _ => isDigit_toDigits

theorem unsigned?_toDigits {bits n : Nat} (h : n < 2 ^ bits) :
    unsigned? bits (Nat.toDigits 10 n) = some n := by
  obtain ⟨d, rest, hdigits, hplus, -⟩ := toDigits_cons n
  have hread := natural?_toDigits n
  rw [hdigits] at hread ⊢
  simp [unsigned?, hplus, hread, h]

theorem integer?_toDigits (n : Nat) : integer? (Nat.toDigits 10 n) = some (n : Int) := by
  obtain ⟨d, rest, hdigits, hplus, hminus⟩ := toDigits_cons n
  have hread := natural?_toDigits n
  rw [hdigits] at hread ⊢
  simp [integer?, hplus, hminus, hread]

theorem ofInt_toList_natCast (n : Nat) : (ofInt n).toList = Nat.toDigits 10 n :=
  String.toList_ofList

/-- The written form of an integer is read as that integer. -/
theorem integer?_ofInt (n : Int) : integer? (ofInt n).toList = some n := by
  cases n with
  | ofNat n => exact (congrArg integer? (ofInt_toList_natCast n)).trans (integer?_toDigits n)
  | negSucc n =>
    have htext : (ofInt (.negSucc n)).toList = '-' :: Nat.toDigits 10 (n + 1) := by
      simp [ofInt, ofNat]
    rw [htext, integer?, natural?_toDigits]
    rfl

theorem signed?_ofInt {n : Int} (h : -2 ^ 63 ≤ n ∧ n < 2 ^ 63) :
    signed? 64 (ofInt n).toList = some n := by
  rw [signed?, integer?_ofInt, Option.filter_some, if_pos]
  simpa using h

theorem unsigned?_ofInt {n : Int} (h : 0 ≤ n ∧ n < 2 ^ 64) :
    unsigned? 64 (ofInt n).toList = some n.toNat := by
  obtain ⟨m, rfl⟩ := Int.eq_ofNat_of_zero_le h.1
  rw [ofInt_toList_natCast]
  exact unsigned?_toDigits (by omega)

/-- The written form of an integer has no blanks. -/
theorem not_isBlank_ofInt (n : Int) : ∀ c ∈ (ofInt n).toList, Text.isBlank c = false := by
  intro c hc
  cases n with
  | ofNat n =>
    have hc : c ∈ Nat.toDigits 10 n := (ofInt_toList_natCast n) ▸ hc
    exact not_isBlank_of_isDigit (isDigit_toDigits hc)
  | negSucc n =>
    have hc : c ∈ '-' :: Nat.toDigits 10 (n + 1) := by simpa [ofInt, ofNat] using hc
    rcases List.mem_cons.mp hc with rfl | hc
    · decide
    · exact not_isBlank_of_isDigit (isDigit_toDigits hc)

end Numeral

/-! ## Versions -/

namespace Version

theorem component?_toDigits (n : UInt32) : component? (Nat.toDigits 10 n.toNat) = some n := by
  rw [component?, Numeral.unsigned?_toDigits n.toNat_lt, Option.map_some, UInt32.ofNat_toNat]

/-- The written form of a version: three numerals with points between them. -/
theorem text_toList (v : Version) : v.text.toList = Nat.toDigits 10 v.major.toNat ++
    '.' :: (Nat.toDigits 10 v.minor.toNat ++ '.' :: Nat.toDigits 10 v.patch.toNat) := by
  simp [text, Numeral.ofNat]

/-- The characters of a written version are digits and points. -/
theorem of_mem_text {P : Char → Prop} {v : Version} (hdigit : ∀ c, c.isDigit = true → P c)
    (hpoint : P '.') : ∀ c ∈ v.text.toList, P c := by
  intro c hc
  have hdigits {n : Nat} (h : c ∈ Nat.toDigits 10 n) : P c :=
    hdigit c (Numeral.isDigit_toDigits h)
  rw [text_toList, List.mem_append, List.mem_cons, List.mem_append, List.mem_cons] at hc
  rcases hc with h | rfl | h | rfl | h
  · exact hdigits h
  · exact hpoint
  · exact hdigits h
  · exact hpoint
  · exact hdigits h

/-- **A version that is written is read as that version.** -/
theorem parse?_text (v : Version) : parse? v.text = some v := by
  have hblank : ∀ c ∈ v.text.toList, Text.isBlank c = false :=
    of_mem_text (fun _ => Numeral.not_isBlank_of_isDigit) (by decide)
  have hdigits (n : Nat) : ∀ c ∈ Nat.toDigits 10 n, (c == '.') = false := fun c hc =>
    Numeral.of_isDigit (P := fun c => (c == '.') = false) (by decide) (Numeral.isDigit_toDigits hc)
  have hpieces : Text.pieces (· == '.') v.text.toList =
      [Nat.toDigits 10 v.major.toNat, Nat.toDigits 10 v.minor.toNat,
        Nat.toDigits 10 v.patch.toNat] := by
    rw [text_toList, Text.pieces_append (hdigits _) rfl, Text.pieces_append (hdigits _) rfl,
      Text.pieces_of_no_separator (hdigits _)]
  rw [parse?, Text.trimmed_of_no_blank hblank, hpieces]
  simp [component?_toDigits, ofComponents?]

end Version

end RegionClient
