import RegionClient.Proofs.GroupedAddresses

set_option autoImplicit false

/-! # Hosts are read back

The written form of a host is read as that host: a name is its own ASCII form, and an address of 32
bits is written as four bytes, which make up the same address. No host has characters that would end
it inside an address, and it has colons in brackets only (`StandsAsHost`).

Main statements: `Host.parse_again`, `Host.parsePlain_again`.
-/

namespace RegionClient

namespace Percent

variable {encoded : Char → Bool}

/-- What is encoded has nothing to encode. -/
theorem eq_false_of_mem_encode (hsign : encoded '%' = false)
    (hdigits : ∀ n < 16, encoded (hexDigit n) = false) {s : List Char} :
    ∀ c ∈ encode encoded s, encoded c = false := by
  intro c hc
  rcases mem_encode hc with ⟨-, hplain⟩ | rfl | ⟨n, hn, rfl⟩
  · exact hplain
  · exact hsign
  · exact hdigits n hn

end Percent

namespace Host

/-! ## Addresses of 32 bits -/

/-- Addresses of 32 bits have 32 bits. -/
theorem ofNumbers?_lt {numbers : List Nat} {address : Nat}
    (h : ofNumbers? numbers = some address) : address < 256 ^ 4 := by
  unfold ofNumbers? at h
  split at h
  · cases h
  · rename_i last before hreverse
    split at h
    · cases h
    · rename_i hfit
      simp only [not_or, Nat.not_lt, Nat.not_le, Bool.not_eq_true] at hfit
      obtain ⟨hlength, hbefore, hlast⟩ := hfit
      have hcount : numbers.length = before.length + 1 := by
        rw [← List.length_reverse, hreverse, List.length_cons]
      have hbytes : ∀ b ∈ before.reverse, b < 256 := by
        intro b hb
        have hle := List.any_eq_false.mp hbefore b (List.mem_reverse.mp hb)
        simp only [decide_eq_true_eq] at hle
        omega
      have hhigh := foldl_lt hbytes 0
      rw [List.length_reverse] at hhigh
      obtain rfl := Option.some.inj h
      rw [hcount, show 5 - (before.length + 1) = 4 - before.length by omega] at hlast ⊢
      calc last + before.reverse.foldl (fun n b => 256 * n + b) 0 * 256 ^ (4 - before.length)
          < (before.reverse.foldl (fun n b => 256 * n + b) 0 + 1) * 256 ^ (4 - before.length) := by
            rw [Nat.add_mul]
            omega
        _ ≤ 256 ^ before.length * 256 ^ (4 - before.length) := by
            refine Nat.mul_le_mul_right _ ?_
            omega
        _ = 256 ^ 4 := by
            rw [← Nat.pow_add, Nat.add_sub_of_le (by omega)]

/-- The decimal digits of a number do not say that they are in Punycode. -/
theorem isMarked_toDigits (n : Nat) : DomainForm.isMarked (Nat.toDigits 10 n) = false := by
  obtain ⟨d, rest, hdigits⟩ := List.exists_cons_of_ne_nil (Nat.toDigits_ne_nil (n := n) (b := 10))
  have hd : d.toLower ≠ 'x' := Numeral.of_isDigit (P := (·.toLower ≠ 'x')) (by decide)
    (Numeral.isDigit_toDigits (hdigits ▸ List.mem_cons_self))
  rw [hdigits, DomainForm.isMarked, beq_eq_false_iff_ne]
  intro heq
  exact hd (List.cons.inj heq).1

/-- The bytes of an address, the highest first. -/
def bytes (address : Nat) : List Nat :=
  [3, 2, 1, 0].map fun i => address / 256 ^ i % 256

theorem lt_of_mem_bytes {address b : Nat} (h : b ∈ bytes address) : b < 256 := by
  obtain ⟨i, -, rfl⟩ := List.mem_map.mp h
  exact Nat.mod_lt _ (by decide)

theorem ipv4Text_eq (address : Nat) :
    ipv4Text address = Text.joined "." ((bytes address).map Numeral.ofNat) := by
  rw [ipv4Text, bytes, List.map_map]
  rfl

/-- The written form of an address has digits and points. -/
theorem of_mem_ipv4Text {address : Nat} {c : Char} (h : c ∈ (ipv4Text address).toList) :
    DomainForm.isAllowed c = true ∧ c.toLower = c := by
  rw [ipv4Text_eq] at h
  rcases Text.of_mem_joined h with h | ⟨t, ht, h⟩
  · obtain rfl := List.mem_singleton.mp h
    decide
  · obtain ⟨n, -, rfl⟩ := List.mem_map.mp ht
    rw [Numeral.ofNat, String.toList_ofList] at h
    exact Numeral.of_isDigit (P := fun c => DomainForm.isAllowed c = true ∧ c.toLower = c)
      (by decide) (Numeral.isDigit_toDigits h)

/-- It is cut into the digits of its bytes. -/
theorem pieces_ipv4Text (address : Nat) : Text.pieces (· == '.') (ipv4Text address).toList =
    (bytes address).map (Nat.toDigits 10) := by
  have hfree : ∀ t ∈ (bytes address).map Numeral.ofNat, '.' ∉ t.toList := by
    intro t ht hmem
    obtain ⟨n, -, rfl⟩ := List.mem_map.mp ht
    rw [Numeral.ofNat, String.toList_ofList] at hmem
    exact absurd (Numeral.isDigit_toDigits hmem) (by decide)
  have hsplit : Text.split (· == '.') (ipv4Text address) = (bytes address).map Numeral.ofNat := by
    rw [ipv4Text_eq]
    exact Text.split_joined rfl (by simp [bytes]) hfree
  have hlists := congrArg (List.map String.toList) hsplit
  simpa [Text.split, Numeral.ofNat, Function.comp_def] using hlists

/-- **The written form of an address is its own ASCII form.** -/
theorem domains_ipv4Text {domains : DomainForm} (hdomains : domains.Lawful) (address : Nat) :
    domains (ipv4Text address).toList = some (ipv4Text address).toList := by
  have hplain : DomainForm.isPlain (ipv4Text address).toList = true := by
    refine DomainForm.isPlain_iff.mpr ⟨fun c hc => (of_mem_ipv4Text hc).1, ?_⟩
    rw [pieces_ipv4Text]
    exact List.forall_mem_map.mpr fun n _ => isMarked_toDigits n
  have hsmall : (ipv4Text address).toList.map Char.toLower = (ipv4Text address).toList :=
    (List.map_congr_left fun c hc => (of_mem_ipv4Text hc).2).trans (List.map_id _)
  rw [hdomains.plain _ hplain, hsmall]

theorem parts_ipv4Text (address : Nat) :
    parts (ipv4Text address).toList = (bytes address).map (Nat.toDigits 10) := by
  rw [parts, pieces_ipv4Text, if_neg]
  simp [bytes]

theorem addressNumber?_toDigits : ∀ n < 256, addressNumber? (Nat.toDigits 10 n) = some n := by
  decide +kernel

/-- The bytes of an address make up that address. -/
theorem ofNumbers?_bytes {address : Nat} (h : address < 256 ^ 4) :
    ofNumbers? (bytes address) = some address := by
  have hsmall : ¬ (4 < (bytes address).length ∨
      [address / 256 ^ 1 % 256, address / 256 ^ 2 % 256, address / 256 ^ 3 % 256].any (255 < ·) ∨
        256 ^ (5 - (bytes address).length) ≤ address / 256 ^ 0 % 256) := by
    simp [bytes]
    omega
  have hreverse : (bytes address).reverse = [address / 256 ^ 0 % 256, address / 256 ^ 1 % 256,
      address / 256 ^ 2 % 256, address / 256 ^ 3 % 256] := rfl
  simp only [ofNumbers?, hreverse]
  rw [if_neg hsmall]
  simp [bytes]
  omega

section

variable {domains : DomainForm} {s d : List Char} {host : Host}

/-- A host that begins with no bracket is a name, unless it ends in a number. -/
theorem parse_eq_name (hhead : s.head? ≠ some '[') (hdomain : domain? domains s = some d)
    (hne : d ≠ []) (hnumber : endsInNumber d = false) :
    parse domains s = .ok (name (String.ofList d)) := by
  obtain ⟨c, rest, rfl⟩ := List.exists_cons_of_ne_nil hne
  simp only [parse, if_neg hhead, hdomain, hnumber, Bool.false_eq_true, if_false]

theorem parse_eq_ipv4 {address : Nat} (hhead : s.head? ≠ some '[')
    (hdomain : domain? domains s = some d) (hnumber : endsInNumber d = true)
    (hread : ipv4? d = some address) : parse domains s = .ok (ipv4 address) := by
  cases d with
  | nil => cases hnumber
  | cons c rest => simp only [parse, if_neg hhead, hdomain, hnumber, if_true, hread]

/-- A name of characters that an ASCII form may have begins with no bracket. -/
theorem head?_ne_bracket (h : ∀ c ∈ d, DomainForm.isAllowed c = true) : d.head? ≠ some '[' := by
  intro heq
  exact absurd (h _ (List.mem_of_head? heq)) (by decide)

/-- **An address of 32 bits is read back.** -/
theorem parse_ipv4Text (hdomains : domains.Lawful) {address : Nat} (h : address < 256 ^ 4) :
    parse domains (ipv4Text address).toList = .ok (ipv4 address) := by
  have hparts := parts_ipv4Text address
  have hchars : ∀ c ∈ (ipv4Text address).toList, DomainForm.isAllowed c = true :=
    fun c hc => (of_mem_ipv4Text hc).1
  have hdomain : domain? domains (ipv4Text address).toList = some (ipv4Text address).toList := by
    rw [domain?_of_allowed hchars, domains_ipv4Text hdomains]
  have hnumber : endsInNumber (ipv4Text address).toList = true := by
    have hlast : ((bytes address).map (Nat.toDigits 10)).getLast? =
        some (Nat.toDigits 10 (address / 256 ^ 0 % 256)) := rfl
    obtain ⟨d, rest, hdigits⟩ := List.exists_cons_of_ne_nil
      (Nat.toDigits_ne_nil (n := address / 256 ^ 0 % 256) (b := 10))
    have hall : (d :: rest).all Char.isDigit = true := by
      rw [← hdigits]
      exact List.all_eq_true.mpr fun c hc => Numeral.isDigit_toDigits hc
    rw [endsInNumber, hparts, hlast, hdigits]
    simp only [hall, Bool.true_or]
  have hread : ipv4? (ipv4Text address).toList = some address := by
    have hnumbers : ((bytes address).map (Nat.toDigits 10)).mapM addressNumber? =
        some (bytes address) := by
      refine mapM_eq_some.mpr (List.forall₂_map_left_iff.mpr (List.forall₂_same.mpr ?_))
      exact fun b hb => addressNumber?_toDigits b (lt_of_mem_bytes hb)
    rw [ipv4?, hparts, hnumbers, Option.bind_some, ofNumbers?_bytes h]
  exact parse_eq_ipv4 (head?_ne_bracket hchars) hdomain hnumber hread

end

/-! ## Hosts in addresses -/

/-- A character that does not end a host inside an address, and is not cut off at its edges. -/
structure IsHostChar (c : Char) : Prop where
  visible : 0x20 < c.toNat
  inner : c ∉ ['/', '\\', '?', '#', '@', '|']

instance (c : Char) : Decidable (IsHostChar c) :=
  decidable_of_iff (0x20 < c.toNat ∧ c ∉ ['/', '\\', '?', '#', '@', '|'])
    ⟨fun h => ⟨h.1, h.2⟩, fun h => ⟨h.visible, h.inner⟩⟩

theorem isHostChar_digitChar : ∀ n < 16, IsHostChar n.digitChar := by
  decide

theorem digitChar_ne_bracket : ∀ n < 16, n.digitChar ≠ ']' := by
  decide

/-- **A text that an address can have as its host**: there are colons and brackets in it only if one
pair of brackets encloses all of it. -/
structure StandsAsHost (s : List Char) : Prop where
  chars : ∀ c ∈ s, IsHostChar c
  colons : (∀ c ∈ s, c ≠ ':' ∧ c ≠ '[') ∨
    ∃ inner, s = '[' :: (inner ++ [']']) ∧ ∀ c ∈ inner, c ≠ ']'

/-- What a host of either kind does not have. -/
theorem standsAsHost_of_free {s : List Char} (h : ∀ c ∈ s, 0x20 < c.toNat ∧
    c ∉ ['#', '/', ':', '?', '@', '[', '\\', '|']) : StandsAsHost s where
  chars := by
    intro c hc
    obtain ⟨hvisible, hfree⟩ := h c hc
    simp only [List.mem_cons, List.not_mem_nil, or_false, not_or] at hfree
    refine ⟨hvisible, ?_⟩
    simp [hfree]
  colons := by
    refine .inl fun c hc => ?_
    have hfree := (h c hc).2
    simp only [List.mem_cons, List.not_mem_nil, or_false, not_or] at hfree
    exact ⟨hfree.2.2.1, hfree.2.2.2.2.2.1⟩

theorem ipv6_toList (gs : List Nat) :
    (ipv6 gs).text.toList = '[' :: ((ipv6Text gs).toList ++ [']']) := by
  simp [text]

/-- **A host in brackets is read back.** -/
theorem bracketed_again {s : List Char} {host : Host} (h : bracketed s = .ok host) :
    host.text.toList.head? = some '[' ∧ bracketed host.text.toList = .ok host ∧
      StandsAsHost host.text.toList := by
  unfold bracketed at h
  split at h
  · rename_i gs hread
    obtain rfl := Except.ok.inj h
    have haddress : IsAddress gs := by
      split at hread
      · exact ipv6?_isAddress hread
      · cases hread
    have hlast : (ipv6 gs).text.toList.getLast? = some ']' := by
      rw [ipv6_toList, ← List.cons_append, List.getLast?_concat]
    have hinner : ((ipv6 gs).text.toList.drop 1).dropLast = (ipv6Text gs).toList := by
      rw [ipv6_toList, List.drop_one, List.tail_cons, List.dropLast_concat]
    refine ⟨by rw [ipv6_toList, List.head?_cons], ?_, ?_, .inr ⟨_, ipv6_toList gs, ?_⟩⟩
    · rw [bracketed, if_pos hlast, hinner, ipv6?_ipv6Text haddress]
    · rw [ipv6_toList, List.forall_mem_cons, List.forall_mem_append, List.forall_mem_singleton]
      exact ⟨by decide, of_mem_ipv6Text isHostChar_digitChar (by decide) gs, by decide⟩
    · exact of_mem_ipv6Text (P := (· ≠ ']')) digitChar_ne_bracket (by decide) gs
  · cases h

/-- The characters of a domain name do not end it inside an address. -/
theorem isAllowed_free {c : Char} (h : DomainForm.isAllowed c = true) :
    0x20 < c.toNat ∧ c ∉ ['#', '/', ':', '?', '@', '[', '\\', '|'] := by
  simp only [DomainForm.isAllowed, Bool.and_eq_true, decide_eq_true_eq, List.mem_cons,
    List.not_mem_nil, or_false, not_or] at h
  refine ⟨h.1.1, ?_⟩
  simp [h.2]

/-- **The written form of a host is read as that host**, where domain names are known. -/
theorem parse_again {domains : DomainForm} (hdomains : domains.Lawful) {s : List Char} {host : Host}
    (h : parse domains s = .ok host) :
    parse domains host.text.toList = .ok host ∧ host.text.toList ≠ [] ∧
      StandsAsHost host.text.toList := by
  unfold parse at h
  split at h
  · obtain ⟨hhead, hagain, hstands⟩ := bracketed_again h
    refine ⟨by rw [parse, if_pos hhead, hagain], ?_, hstands⟩
    intro hnil
    rw [hnil] at hhead
    cases hhead
  · split at h
    · cases h
    · cases h
    · rename_i d hne hdomain
      obtain ⟨hagain, hchars⟩ := domain?_again hdomains hdomain
      split at h
      · split at h
        · rename_i address haddress
          obtain rfl := Except.ok.inj h
          obtain ⟨numbers, -, hnumbers⟩ := Option.bind_eq_some_iff.mp haddress
          refine ⟨parse_ipv4Text hdomains (ofNumbers?_lt hnumbers), ?_,
            standsAsHost_of_free fun c hc => isAllowed_free (of_mem_ipv4Text hc).1⟩
          intro hnil
          -- The parts of an empty text are no bytes of an address.
          have hparts := parts_ipv4Text address
          rw [show (ipv4Text address).toList = [] from hnil] at hparts
          simp [parts, Text.pieces, bytes] at hparts
        · cases h
      · rename_i hnumber
        obtain rfl := Except.ok.inj h
        rw [text, String.toList_ofList]
        exact ⟨parse_eq_name (head?_ne_bracket hchars) hagain hne (Bool.eq_false_iff.mpr hnumber),
          hne, standsAsHost_of_free fun c hc => isAllowed_free (hchars c hc)⟩

theorem isForbidden_hexDigit : ∀ n < 16, isForbidden (Percent.hexDigit n) = false ∧
    0x20 < (Percent.hexDigit n).toNat := by
  decide

/-- **The written form of a host is read as that host**, where domain names are unknown. -/
theorem parsePlain_again {s : List Char} {host : Host} (h : parsePlain s = .ok host) :
    parsePlain host.text.toList = .ok host ∧ StandsAsHost host.text.toList := by
  unfold parsePlain at h
  split at h
  · obtain ⟨hhead, hagain, hstands⟩ := bracketed_again h
    exact ⟨by rw [parsePlain, if_pos hhead, hagain], hstands⟩
  · split at h
    · cases h
    · rename_i hallowed
      obtain rfl := Except.ok.inj h
      have hchars : ∀ c ∈ Percent.encode Percent.isControl s,
          isForbidden c = false ∧ 0x20 < c.toNat := by
        intro c hc
        rcases Percent.mem_encode hc with ⟨hmem, hplain⟩ | rfl | ⟨n, hn, rfl⟩
        · have hfree := Bool.eq_false_iff.mpr fun heq =>
            hallowed (List.any_eq_true.mpr ⟨c, hmem, heq⟩)
          refine ⟨hfree, ?_⟩
          -- The space is forbidden, and the controls below it are encoded.
          have hspace : c.toNat ≠ 0x20 := by
            intro heq
            rw [Char.toNat_inj.mp (show c.toNat = ' '.toNat from heq)] at hfree
            cases hfree
          simp only [Percent.isControl, Bool.or_eq_false_iff, decide_eq_false_iff_not] at hplain
          omega
        · decide
        · exact isForbidden_hexDigit n hn
      have hnone : (Percent.encode Percent.isControl s).any isForbidden = false :=
        List.any_eq_false.mpr fun c hc => Bool.eq_false_iff.mp (hchars c hc).1
      have hhead : (Percent.encode Percent.isControl s).head? ≠ some '[' := fun heq =>
        absurd (hchars _ (List.mem_of_head? heq)).1 (by decide)
      rw [text, String.toList_ofList]
      refine ⟨?_, standsAsHost_of_free fun c hc => ⟨(hchars c hc).2, ?_⟩⟩
      · rw [parsePlain, if_neg hhead, hnone, if_neg Bool.false_ne_true,
          Percent.encode_plain (Percent.eq_false_of_mem_encode (by decide) (by decide))]
      · have hfree := (hchars c hc).1
        simp only [isForbidden, List.mem_cons, List.not_mem_nil, or_false,
          decide_eq_false_iff_not, not_or] at hfree
        simp [hfree]

end Host

end RegionClient
