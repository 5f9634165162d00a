import RegionClient.Url.Percent

set_option autoImplicit false

/-! # Encoded texts

The bytes of a text in UTF-8 are read as that text, and what is percent-encoded stands for the text
that it was made from. The first byte of a character tells how many follow it and narrows the range
of the next one, so that nothing is read which no character has (`Utf8.lead_of_three`,
`Utf8.lead_of_four`).

Main statements: `Utf8.decode?_encode`, `Percent.decodeText?_encode`.
-/

namespace RegionClient

namespace Utf8

/-! ## Bytes -/

/-- A byte is the number that it is made from, if that is small enough. -/
theorem toNat_byte {n : Nat} (h : n < 256) : (UInt8.ofNat n).toNat = n :=
  UInt8.toNat_ofNat_of_lt' h

theorem scan_lead {n bits k low high : Nat} (hn : n < 256)
    (h : lead? n = some ⟨bits, k, low, high⟩) (rest : List UInt8) :
    scan (UInt8.ofNat n :: rest) =
      (follow bits k low high rest).1 :: scan (follow bits k low high rest).2 := by
  rw [scan, next, toNat_byte hn, h]

theorem follow_byte {bits k low high n : Nat} {rest : List UInt8} (h : low ≤ n ∧ n ≤ high)
    (hn : n < 256) :
    follow bits (k + 1) low high (UInt8.ofNat n :: rest) =
      follow (bits * 64 + n % 64) k 0x80 0xBF rest := by
  rw [follow, toNat_byte hn, if_pos h]

theorem follow_end (bits low high : Nat) (rest : List UInt8) :
    follow bits 0 low high rest = (some (Char.ofNat bits), rest) := by
  cases rest <;> rfl

/-- The first byte of three rules out surrogates and what two bytes could hold. -/
theorem lead_of_three {v : Nat} (hv : 2047 < v ∧ v ≤ 65535) (hvalid : v < 0xD800 ∨ 0xDFFF < v) :
    ∃ low high, lead? (v / 4096 % 16 + 224) = some ⟨v / 4096, 2, low, high⟩ ∧
      low ≤ v / 64 % 64 + 128 ∧ v / 64 % 64 + 128 ≤ high := by
  rw [lead?, if_neg (by omega), if_neg (by omega), if_neg (by omega)]
  by_cases hfirst : v / 4096 = 0
  · rw [if_pos (by omega), hfirst]
    exact ⟨0xA0, 0xBF, rfl, by omega, by omega⟩
  · rw [if_neg (by omega)]
    by_cases hsurrogate : v / 4096 = 13
    · rw [if_pos (by omega), hsurrogate]
      exact ⟨0x80, 0x9F, rfl, by omega, by omega⟩
    · rw [if_neg (by omega), if_pos (by omega),
        show (v / 4096 % 16 + 224) % 16 = v / 4096 by omega]
      exact ⟨0x80, 0xBF, rfl, by omega, by omega⟩

/-- The first byte of four rules out what three bytes could hold, and what is no character. -/
theorem lead_of_four {v : Nat} (hv : 65535 < v ∧ v < 0x110000) :
    ∃ low high, lead? (v / 262144 % 8 + 240) = some ⟨v / 262144, 3, low, high⟩ ∧
      low ≤ v / 4096 % 64 + 128 ∧ v / 4096 % 64 + 128 ≤ high := by
  rw [lead?, if_neg (by omega), if_neg (by omega), if_neg (by omega), if_neg (by omega),
    if_neg (by omega), if_neg (by omega)]
  by_cases hfirst : v / 262144 = 0
  · rw [if_pos (by omega), hfirst]
    exact ⟨0x90, 0xBF, rfl, by omega, by omega⟩
  · rw [if_neg (by omega)]
    by_cases hlast : v / 262144 = 4
    · rw [if_neg (by omega), if_pos (by omega), hlast]
      exact ⟨0x80, 0x8F, rfl, by omega, by omega⟩
    · rw [if_pos (by omega), show (v / 262144 % 8 + 240) % 8 = v / 262144 by omega]
      exact ⟨0x80, 0xBF, rfl, by omega, by omega⟩

/-- **The bytes of a character are read as that character.** -/
theorem scan_utf8EncodeChar (c : Char) (rest : List UInt8) :
    scan (String.utf8EncodeChar c ++ rest) = some c :: scan rest := by
  have hvalid : c.toNat < 0xD800 ∨ 0xDFFF < c.toNat ∧ c.toNat < 0x110000 := c.valid
  have hchar : Char.ofNat c.toNat = c := Char.ofNat_toNat c
  rw [String.utf8EncodeChar.eq_def, show c.val.toNat = c.toNat from rfl]
  generalize c.toNat = v at hvalid hchar ⊢
  by_cases h1 : v ≤ 127
  · have hlead : lead? v = some ⟨v, 0, 0x80, 0xBF⟩ := if_pos (by omega)
    simp only [if_pos h1, List.singleton_append]
    rw [scan_lead (by omega) hlead, follow_end, hchar]
  · by_cases h2 : v ≤ 2047
    · have hlead : lead? (v / 64 % 32 + 192) = some ⟨v / 64, 1, 0x80, 0xBF⟩ := by
        rw [lead?, if_neg (by omega), if_neg (by omega), if_pos (by omega),
          show (v / 64 % 32 + 192) % 32 = v / 64 by omega]
      simp only [if_neg h1, if_pos h2, List.cons_append, List.nil_append]
      rw [scan_lead (by omega) hlead, follow_byte (by omega) (by omega), follow_end,
        show v / 64 * 64 + (v % 64 + 128) % 64 = v by omega, hchar]
    · by_cases h3 : v ≤ 65535
      · obtain ⟨low, high, hlead, hrange⟩ := lead_of_three (v := v) (by omega) (by omega)
        simp only [if_neg h1, if_neg h2, if_pos h3, List.cons_append, List.nil_append]
        rw [scan_lead (by omega) hlead, follow_byte hrange (by omega),
          follow_byte (by omega) (by omega), follow_end,
          show (v / 4096 * 64 + (v / 64 % 64 + 128) % 64) * 64 + (v % 64 + 128) % 64 = v by omega,
          hchar]
      · obtain ⟨low, high, hlead, hrange⟩ := lead_of_four (v := v) (by omega)
        simp only [if_neg h1, if_neg h2, if_neg h3, List.cons_append, List.nil_append]
        rw [scan_lead (by omega) hlead, follow_byte hrange (by omega),
          follow_byte (by omega) (by omega), follow_byte (by omega) (by omega), follow_end,
          show ((v / 262144 * 64 + (v / 4096 % 64 + 128) % 64) * 64 + (v / 64 % 64 + 128) % 64) *
            64 + (v % 64 + 128) % 64 = v by omega, hchar]

theorem scan_encode (s : List Char) : scan (s.flatMap String.utf8EncodeChar) = s.map some := by
  induction s with
  | nil => rw [List.flatMap_nil, scan, List.map_nil]
  | cons c s ih => rw [List.flatMap_cons, scan_utf8EncodeChar, ih, List.map_cons]

/-- **The bytes of a text are read as that text.** -/
theorem decode?_encode (s : String) : decode? (encode s) = some s := by
  have hall (l : List Char) : (l.map some).mapM id = some l := by
    induction l with
    | nil => rfl
    | cons c l ih => simp [List.mapM_cons, ih]
  rw [decode?, encode, scan_encode, hall, Option.map_some, String.ofList_toList]

theorem encodeChars_inj {s s' : List Char}
    (h : s.flatMap String.utf8EncodeChar = s'.flatMap String.utf8EncodeChar) : s = s' := by
  have hscan := congrArg scan h
  rw [scan_encode, scan_encode] at hscan
  exact (List.map_inj_right fun _ _ => Option.some.inj).mp hscan

/-- A character of ASCII is one byte. -/
theorem utf8EncodeChar_ascii {c : Char} (h : c.toNat < 128) :
    String.utf8EncodeChar c = [UInt8.ofNat c.toNat] := by
  rw [String.utf8EncodeChar.eq_def, show c.val.toNat = c.toNat from rfl]
  exact if_pos (by omega)

end Utf8

namespace Percent

/-! ## Percent encoding -/

/-- A capital digit is one byte, with the value that it was written for. -/
theorem hexValue?_hexDigit : ∀ n < 16,
    String.utf8EncodeChar (hexDigit n) = [UInt8.ofNat (hexDigit n).toNat] ∧
      hexValue? (UInt8.ofNat (hexDigit n).toNat) = some n := by
  decide

/-- **The encoded form of a byte stands for that byte.** -/
theorem decode_encodeByte (b : UInt8) (rest : List UInt8) :
    decode ((encodeByte b).flatMap String.utf8EncodeChar ++ rest) = b :: decode rest := by
  have hlt : b.toNat < 256 := b.toNat_lt
  obtain ⟨hhigh, hhigh'⟩ := hexValue?_hexDigit (b.toNat / 16) (by omega)
  obtain ⟨hlow, hlow'⟩ := hexValue?_hexDigit (b.toNat % 16) (by omega)
  have hsign : String.utf8EncodeChar '%' = [0x25] := rfl
  simp only [encodeByte, List.flatMap_cons, List.flatMap_nil, hsign, hhigh, hlow, List.append_nil,
    List.nil_append, List.cons_append]
  rw [decode, hhigh', hlow']
  simp only [Nat.div_add_mod, UInt8.ofNat_toNat]

theorem decode_encodeBytes (bytes rest : List UInt8) :
    decode ((bytes.flatMap encodeByte).flatMap String.utf8EncodeChar ++ rest) =
      bytes ++ decode rest := by
  induction bytes with
  | nil => rfl
  | cons b bytes ih =>
    rw [List.flatMap_cons, List.flatMap_append, List.append_assoc, decode_encodeByte, ih,
      List.cons_append]

/-- A byte that is no percent sign stands for itself. -/
theorem decode_byte {b : UInt8} (h : b ≠ 0x25) (rest : List UInt8) :
    decode (b :: rest) = b :: decode rest :=
  decode.eq_2 b rest fun _ _ _ hb _ => h hb

/-- **An encoded text stands for that text**, if whatever is not encoded is in ASCII and no percent
sign. -/
theorem decode_encode {encoded : Char → Bool}
    (h : ∀ c, encoded c = false → c.toNat < 128 ∧ c ≠ '%') (s : List Char) :
    decode ((encode encoded s).flatMap String.utf8EncodeChar) =
      s.flatMap String.utf8EncodeChar := by
  induction s with
  | nil => rfl
  | cons c s ih =>
    rw [encode] at ih ⊢
    rw [List.flatMap_cons, List.flatMap_append, List.flatMap_cons]
    cases hc : encoded c with
    | true => rw [if_pos rfl, encodeChar, decode_encodeBytes, ih]
    | false =>
      obtain ⟨hascii, hsign⟩ := h c hc
      have hbyte : UInt8.ofNat c.toNat ≠ 0x25 := by
        intro heq
        have hnat := congrArg UInt8.toNat heq
        rw [Utf8.toNat_byte (by omega)] at hnat
        exact hsign (Char.toNat_inj.mp hnat)
      rw [if_neg Bool.false_ne_true, List.flatMap_singleton, Utf8.utf8EncodeChar_ascii hascii,
        List.singleton_append, decode_byte hbyte, ih, List.singleton_append]

theorem decodeText?_encode {encoded : Char → Bool}
    (h : ∀ c, encoded c = false → c.toNat < 128 ∧ c ≠ '%') (s : String) :
    decodeText? (String.ofList (encode encoded s.toList)) = some s := by
  rw [decodeText?, Utf8.encode, String.toList_ofList, decode_encode h]
  exact Utf8.decode?_encode s

/-- A segment keeps neither percent signs nor what is beyond ASCII. -/
theorem of_not_inSegment {special : Bool} {c : Char} (h : inSegment special c = false) :
    c.toNat < 128 ∧ c ≠ '%' := by
  simp only [inSegment, inPath, inFragment, isControl, Bool.or_eq_false_iff,
    decide_eq_false_iff_not, List.mem_cons, not_or] at h
  exact ⟨by omega, h.1.2.2.1⟩

end Percent

end RegionClient
