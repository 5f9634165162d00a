import Mathlib.Data.List.Forall2
import Mathlib.Data.List.Induction
import Mathlib.Data.Nat.Digits.Defs
import RegionClient.Error
import RegionClient.Proofs.Texts

set_option autoImplicit false

/-! # Texts of versions

A text is read as a version exactly if it is made of one to three components with points between
them, and of blanks around all that (`Version.Denotes`). A component is an optional plus and digits,
of which there may be any number of zeros in front. What a version is written as is one such text,
and it is read as that version.

The grammar is stated without the reading functions: digits count by their places (`Numeral.placed`),
components are put together with points, and blanks are added. The library's `splitOn` undoes the
points, and `Text.exists_trimmed` finds the blanks.

Main statement: `Version.parse_exact`.
-/

namespace RegionClient

/-! ## Digits -/

namespace Numeral

/-- The number that digits stand for by their places, the last of which counts ones. -/
def placed (digits : List Char) : Nat :=
  Nat.ofDigits 10 (digits.reverse.map fun d => d.toNat - '0'.toNat)

/-- **At least one ASCII digit, and the number that the digits stand for.** -/
structure StandsFor (digits : List Char) (n : Nat) : Prop where
  ne_nil : digits ≠ []
  ascii : ∀ d ∈ digits, '0' ≤ d ∧ d ≤ '9'
  placed_eq : placed digits = n

theorem isDigit_iff (d : Char) : d.isDigit = true ↔ '0' ≤ d ∧ d ≤ '9' := by
  simp [Char.isDigit, Char.le_def]

/-- To read digits from the left multiplies by ten once for each place. -/
theorem value_eq_placed (digits : List Char) : value digits = placed digits := by
  induction digits using List.reverseRecOn with
  | nil => rfl
  | append_singleton digits d ih =>
      have hvalue : value (digits ++ [d]) = 10 * value digits + (d.toNat - 48) := by
        rw [value, List.foldl_append]
        rfl
      have hplaced : placed (digits ++ [d]) = (d.toNat - 48) + 10 * placed digits := by
        rw [placed, List.reverse_append]
        rfl
      rw [hvalue, hplaced, ih, Nat.add_comm]

theorem natural?_iff_standsFor {s : List Char} {n : Nat} :
    natural? s = some n ↔ StandsFor s n := by
  simp only [natural?_eq_some, isDigit_iff, value_eq_placed]
  exact ⟨fun ⟨hne, hascii, hvalue⟩ => ⟨hne, hascii, hvalue⟩, fun h => ⟨h.1, h.2, h.3⟩⟩

end Numeral

/-! ## Components -/

namespace Version

/-- **A component of a version**: digits that stand for its number, with or without a plus before
them. -/
inductive Component : List Char → UInt32 → Prop where
  | bare {digits : List Char} {n : UInt32} (h : Numeral.StandsFor digits n.toNat) :
      Component digits n
  | plus {digits : List Char} {n : UInt32} (h : Numeral.StandsFor digits n.toNat) :
      Component ('+' :: digits) n

/-- Digits that are read stand for a number in range. -/
theorem standsFor_iff {digits : List Char} {n : UInt32} :
    ((Numeral.natural? digits).filter (· < 2 ^ 32)).map UInt32.ofNat = some n ↔
      Numeral.StandsFor digits n.toNat := by
  rw [← Numeral.natural?_iff_standsFor]
  constructor
  · intro h
    obtain ⟨m, hm, rfl⟩ := Option.map_eq_some_iff.mp h
    obtain ⟨hread, hlt⟩ := Option.filter_eq_some_iff.mp hm
    rw [hread, UInt32.toNat_ofNat_of_lt' (by simpa using hlt)]
  · intro h
    rw [h, Option.filter_some, if_pos (by simpa using n.toNat_lt), Option.map_some,
      UInt32.ofNat_toNat]

theorem component?_eq_some {s : List Char} {n : UInt32} :
    component? s = some n ↔ Component s n := by
  constructor
  · intro h
    unfold component? Numeral.unsigned? at h
    split at h
    · exact .plus (standsFor_iff.mp h)
    · exact .bare (standsFor_iff.mp h)
  · intro h
    cases h with
    | bare h =>
        -- Digits do not begin with a plus, so all of them are read.
        obtain ⟨d, rest, rfl, hplus, -⟩ := Numeral.exists_cons_of_digits h.ne_nil fun d hd =>
          (Numeral.isDigit_iff d).mpr (h.ascii d hd)
        have hbare : Numeral.unsigned? 32 (d :: rest) =
            (Numeral.natural? (d :: rest)).filter (· < 2 ^ 32) := by
          simp [Numeral.unsigned?, hplus]
        rw [component?, hbare]
        exact standsFor_iff.mpr h
    | plus h => exact standsFor_iff.mpr h

/-- The characters of a component are a plus and digits. -/
theorem Component.of_mem {P : Char → Prop} {s : List Char} {n : UInt32} (h : Component s n)
    (hplus : P '+') (hdigit : ∀ c, c.isDigit = true → P c) : ∀ c ∈ s, P c := by
  have hdigits {digits : List Char} (hd : Numeral.StandsFor digits n.toNat) :
      ∀ c ∈ digits, P c := fun c hc => hdigit c ((Numeral.isDigit_iff c).mpr (hd.ascii c hc))
  cases h with
  | bare h => exact hdigits h
  | plus h => exact List.forall_mem_cons.mpr ⟨hplus, hdigits h⟩

theorem of_mem_components {P : Char → Prop} {parts : List (List Char)} {numbers : List UInt32}
    (h : List.Forall₂ Component parts numbers) (hplus : P '+')
    (hdigit : ∀ c, c.isDigit = true → P c) : ∀ part ∈ parts, ∀ c ∈ part, P c := by
  induction h with
  | nil => exact List.forall_mem_nil _
  | cons h _ ih => exact List.forall_mem_cons.mpr ⟨h.of_mem hplus hdigit, ih⟩

/-! ## The grammar -/

/-- **One to three numbers are those of a version**, with zeros for the ones left out. -/
def IsPadded (numbers : List UInt32) (v : Version) : Prop :=
  1 ≤ numbers.length ∧ numbers.length ≤ 3 ∧
    numbers ++ List.replicate (3 - numbers.length) 0 = [v.major, v.minor, v.patch]

/-- A text of one to three components with points between them. -/
def Writes (t : List Char) (v : Version) : Prop :=
  ∃ (parts : List (List Char)) (numbers : List UInt32),
    t = ['.'].intercalate parts ∧ List.Forall₂ Component parts numbers ∧ IsPadded numbers v

/-- **The text of a version**, with any blanks around it. -/
def Denotes (s : String) (v : Version) : Prop :=
  ∃ before t after : List Char, (∀ c ∈ before, Text.isBlank c = true) ∧
    (∀ c ∈ after, Text.isBlank c = true) ∧ s.toList = before ++ t ++ after ∧ Writes t v

theorem ofComponents?_eq_some {numbers : List UInt32} {v : Version} :
    ofComponents? numbers = some v ↔ IsPadded numbers v := by
  obtain ⟨major, minor, patch⟩ := v
  match numbers with
  | [] => simp [ofComponents?, IsPadded]
  | [a] => simp [ofComponents?, IsPadded, eq_comm]
  | [a, b] => simp [ofComponents?, IsPadded, eq_comm]
  | [a, b, c] => simp [ofComponents?, IsPadded]
  | _ :: _ :: _ :: _ :: _ => simp [ofComponents?, IsPadded]

theorem mapM_component?_eq_some {parts : List (List Char)} {numbers : List UInt32} :
    parts.mapM component? = some numbers ↔ List.Forall₂ Component parts numbers := by
  simp only [mapM_eq_some, component?_eq_some]

/-- What is put together has the separator and the characters of the parts. -/
theorem mem_intercalate {parts : List (List Char)} {c d : Char}
    (h : c ∈ [d].intercalate parts) : c = d ∨ ∃ part ∈ parts, c ∈ part := by
  induction parts with
  | nil => simp at h
  | cons part rest ih =>
      cases rest with
      | nil => exact .inr ⟨part, List.mem_cons_self, by simpa using h⟩
      | cons part' rest =>
          rw [List.intercalate_cons_cons, List.mem_append, List.mem_append] at h
          rcases h with (h | h) | h
          · exact .inr ⟨part, List.mem_cons_self, h⟩
          · exact .inl (List.mem_singleton.mp h)
          · refine (ih h).imp_right ?_
            rintro ⟨q, hq, hc⟩
            exact ⟨q, List.mem_cons_of_mem part hq, hc⟩

/-- There are no blanks within the components and between them. -/
theorem Writes.not_isBlank {t : List Char} {v : Version} (h : Writes t v) :
    ∀ c ∈ t, Text.isBlank c = false := by
  obtain ⟨parts, numbers, rfl, hparts, -⟩ := h
  intro c hc
  rcases mem_intercalate hc with rfl | ⟨part, hpart, hc⟩
  · decide
  · exact of_mem_components hparts (by decide) (fun _ => Numeral.not_isBlank_of_isDigit) part
      hpart c hc

/-- **Texts of versions are those that are read**, each as its version. -/
theorem parse?_eq_some {s : String} {v : Version} : parse? s = some v ↔ Denotes s v := by
  constructor
  · intro h
    obtain ⟨numbers, hnumbers, hv⟩ := Option.bind_eq_some_iff.mp h
    obtain ⟨before, after, hbefore, hafter, hs⟩ := Text.exists_trimmed s.toList
    refine ⟨before, _, after, hbefore, hafter, hs, _, numbers, ?_,
      mapM_component?_eq_some.mp hnumbers, ofComponents?_eq_some.mp hv⟩
    rw [Text.pieces_eq_splitOnP, ← List.splitOn_eq_splitOnP, List.intercalate_splitOn]
  · rintro ⟨before, t, after, hbefore, hafter, hs, ht⟩
    have htrimmed : Text.trimmed s.toList = t := by
      rw [hs, Text.trimmed_padded t hbefore hafter, Text.trimmed_of_no_blank ht.not_isBlank]
    obtain ⟨parts, numbers, rfl, hparts, hpadded⟩ := ht
    have hne : parts ≠ [] := by
      rintro rfl
      obtain rfl := List.forall₂_nil_left_iff.mp hparts
      exact absurd hpadded.1 (by decide)
    have hpoint : ∀ part ∈ parts, '.' ∉ part := fun part hpart hmem =>
      of_mem_components (P := (· ≠ '.')) hparts (by decide)
        (fun _ => Numeral.of_isDigit (P := (· ≠ '.')) (by decide)) part hpart '.' hmem rfl
    have hpieces : Text.pieces (· == '.') (['.'].intercalate parts) = parts := by
      rw [Text.pieces_eq_splitOnP, ← List.splitOn_eq_splitOnP]
      exact List.splitOn_intercalate '.' hpoint hne
    rw [parse?, htrimmed, hpieces, mapM_component?_eq_some.mpr hparts]
    exact ofComponents?_eq_some.mpr hpadded

/-! ## Reading -/

theorem parse_ok_iff {s : String} {v : Version} : parse s = .ok v ↔ parse? s = some v := by
  rw [parse]
  cases parse? s <;> simp

theorem parse_eq_ok {s : String} {v : Version} : parse s = .ok v ↔ Denotes s v :=
  parse_ok_iff.trans parse?_eq_some

theorem parse_eq_error {s : String} :
    parse s = .error (.notValid (.version s)) ↔ ¬ ∃ v, Denotes s v := by
  simp only [← parse?_eq_some, parse]
  cases parse? s <;> simp

/-- What is written is read back. -/
theorem parse_text (v : Version) : parse v.text = .ok v := by
  rw [parse, parse?_text]

/-- **A text is read as a version exactly if the grammar has it as one**, and otherwise it is
rejected. A version that is written is read as itself, so what is read and written stays as it is
when that is done again. -/
theorem parse_exact :
    (∀ s : String, (∀ v, parse s = .ok v ↔ Denotes s v) ∧
      (parse s = .error (.notValid (.version s)) ↔ ¬ ∃ v, Denotes s v)) ∧
    (∀ v : Version, parse v.text = .ok v) ∧
    ∀ s : String, (((parse s).map text) >>= fun d => (parse d).map text) = (parse s).map text := by
  refine ⟨fun s => ⟨fun v => parse_eq_ok, parse_eq_error⟩, parse_text, fun s => ?_⟩
  cases hs : parse s with
  | error e => rfl
  | ok v =>
      have hread : (parse v.text).map text = .ok v.text := congrArg (Except.map text) (parse_text v)
      simp only [Except.map, bind, Except.bind] at hread ⊢
      exact hread

-- Wide blanks around, signs and zeros in the components, and one component too few.
example : Version.parse "\u00a0+02.010\u3000" = .ok ⟨2, 10, 0⟩ := by
  decide +kernel

end Version

end RegionClient
