import RegionClient.Proofs.DomainNames

set_option autoImplicit false

/-! # Addresses in groups are read back

An address of 128 bits is written as eight groups of hexadecimal digits, of which the longest run of
zeros is left out. Whichever run that is, it is as long as there are groups missing, so that the
address is the same again. A reader of groups never takes more than there is room for (`Room.read`),
which makes every address that is read one of eight groups.

Main statements: `Host.ipv6?_isAddress`, `Host.ipv6?_ipv6Text`.
-/

namespace RegionClient.Host

/-- What a positional numeral stands for is below the next power of its base. -/
theorem foldl_lt {α : Type} {base : Nat} {f : α → Nat} {l : List α} (h : ∀ a ∈ l, f a < base)
    (n : Nat) : l.foldl (fun n a => base * n + f a) n < (n + 1) * base ^ l.length := by
  induction l generalizing n with
  | nil => simp
  | cons a l ih =>
    have ha : base * n + f a + 1 ≤ (n + 1) * base := by
      have hlt := h a List.mem_cons_self
      rw [Nat.add_mul, Nat.mul_comm n base]
      omega
    rw [List.foldl_cons, List.length_cons, Nat.pow_succ']
    calc l.foldl (fun n a => base * n + f a) (base * n + f a)
        < (base * n + f a + 1) * base ^ l.length := ih (fun b hb => h b (List.mem_cons_of_mem a hb)) _
      _ ≤ (n + 1) * base * base ^ l.length := Nat.mul_le_mul_right _ ha
      _ = (n + 1) * (base * base ^ l.length) := Nat.mul_assoc _ _ _

/-! ## Hexadecimal digits -/

/-- What a hexadecimal digit is worth. -/
def hexDigitValue (c : Char) : Nat :=
  (Percent.hexValue? (UInt8.ofNat c.toNat)).getD 0

theorem hexDigitValue_lt (c : Char) : hexDigitValue c < 16 := by
  have hsome : ∀ b v, Percent.hexValue? b = some v → v < 16 := by
    intro b v h
    unfold Percent.hexValue? at h
    grind
  unfold hexDigitValue
  cases h : Percent.hexValue? (UInt8.ofNat c.toNat) with
  | none => decide
  | some v => exact hsome _ v h

theorem hexNumber_lt (digits : List Char) : hexNumber digits < 16 ^ digits.length := by
  have h := foldl_lt (f := hexDigitValue) (fun c (_ : c ∈ digits) => hexDigitValue_lt c) 0
  rwa [Nat.zero_add, Nat.one_mul] at h

theorem hexNumber_concat (digits : List Char) (c : Char) :
    hexNumber (digits ++ [c]) = 16 * hexNumber digits + hexDigitValue c := by
  rw [hexNumber, List.foldl_append]
  rfl

theorem isHexDigit_digitChar : ∀ n < 16, isHexDigit n.digitChar = true := by
  decide

/-- A hexadecimal digit is worth the number that it was written for. -/
theorem hexDigitValue_digitChar : ∀ n < 16, hexDigitValue n.digitChar = n := by
  decide

/-- What holds of all digits holds of the digits of a number. -/
theorem of_mem_hexadecimal {P : Char → Prop} (h : ∀ n < 16, P n.digitChar) {n : Nat} {c : Char}
    (hc : c ∈ Numeral.hexadecimal n) : P c := by
  induction n using Nat.strong_induction_on with
  | _ n ih =>
    rw [Numeral.hexadecimal, Nat.toDigits_eq_if (by decide)] at hc
    split at hc
    · rw [List.mem_singleton.mp hc]
      exact h n (by omega)
    · rcases List.mem_append.mp hc with hc | hc
      · exact ih (n / 16) (by omega) hc
      · rw [List.mem_singleton.mp hc]
        exact h _ (Nat.mod_lt _ (by decide))

/-- The digits of a number begin with one, which is no colon. -/
theorem hexadecimal_begins (n : Nat) :
    ∃ d more, Numeral.hexadecimal n = d :: more ∧ d ≠ ':' := by
  obtain ⟨d, more, hdigits⟩ : ∃ d more, Numeral.hexadecimal n = d :: more :=
    List.exists_cons_of_ne_nil Nat.toDigits_ne_nil
  have hcolon : ∀ n < 16, n.digitChar ≠ ':' := by decide
  exact ⟨d, more, hdigits,
    of_mem_hexadecimal (P := (· ≠ ':')) hcolon (hdigits ▸ List.mem_cons_self)⟩

theorem hexNumber_hexadecimal (n : Nat) : hexNumber (Numeral.hexadecimal n) = n := by
  induction n using Nat.strong_induction_on with
  | _ n ih =>
    rw [Numeral.hexadecimal, Nat.toDigits_eq_if (by decide)]
    split
    · rename_i hlt
      rw [← List.nil_append [n.digitChar], hexNumber_concat, hexDigitValue_digitChar n hlt]
      exact Nat.zero_add n
    · have hdiv : hexNumber (Nat.toDigits 16 (n / 16)) = n / 16 := ih (n / 16) (by omega)
      rw [hexNumber_concat, hdiv, hexDigitValue_digitChar _ (Nat.mod_lt _ (by decide))]
      exact Nat.div_add_mod n 16

/-! ## Addresses of 128 bits -/

/-- Whether a number fits into a group. -/
def IsGroup (g : Nat) : Prop :=
  g < 65536

/-- The digits of a group are read up to what follows them. -/
theorem take_hexadecimal {g : Nat} (hg : IsGroup g) {rest : List Char}
    (hrest : ∀ c ∈ rest.head?, c = ':') :
    ((Numeral.hexadecimal g ++ rest).take 4).takeWhile isHexDigit = Numeral.hexadecimal g := by
  have hlength : (Numeral.hexadecimal g).length ≤ 4 :=
    (Nat.length_toDigits_le_iff (by decide) (by decide)).mpr hg
  have hdigits : ∀ c ∈ Numeral.hexadecimal g, isHexDigit c = true := fun c hc =>
    of_mem_hexadecimal (P := fun c => isHexDigit c = true) isHexDigit_digitChar hc
  rw [List.take_append, List.take_of_length_le hlength, List.takeWhile_append_of_pos hdigits]
  cases hcount : 4 - (Numeral.hexadecimal g).length with
  | zero => simp
  | succ k =>
    cases rest with
    | nil => simp
    | cons c rest =>
      have hc : c = ':' := hrest c rfl
      rw [hc, List.take_succ_cons, List.takeWhile_cons_of_neg (by decide), List.append_nil]

variable {left : Nat} {gap : Option Nat} {groups : List Nat}

/-- A group at the end is read. -/
theorem groups?_last {g : Nat} (hg : IsGroup g) :
    groups? (left + 1) gap groups (Numeral.hexadecimal g) = some (groups ++ [g], gap) := by
  have htake : ((Numeral.hexadecimal g ++ []).take 4).takeWhile isHexDigit =
      Numeral.hexadecimal g := take_hexadecimal hg (by simp)
  have hnumber := hexNumber_hexadecimal g
  obtain ⟨d, more, hdigits, hd⟩ := hexadecimal_begins g
  rw [List.append_nil] at htake
  rw [hdigits] at htake hnumber ⊢
  rw [groups?]
  · simp only [htake, hnumber, List.drop_length]
  · exact List.cons_ne_nil _ _
  · exact fun s hs => hd (List.cons.inj hs).1

/-- A group before a colon is read, if something follows. -/
theorem groups?_colon {g : Nat} (hg : IsGroup g) {s : List Char} (hs : s ≠ []) :
    groups? (left + 1) gap groups (Numeral.hexadecimal g ++ ':' :: s) =
      groups? left gap (groups ++ [g]) s := by
  have htake : ((Numeral.hexadecimal g ++ ':' :: s).take 4).takeWhile isHexDigit =
      Numeral.hexadecimal g := take_hexadecimal hg (by simp)
  have hnumber := hexNumber_hexadecimal g
  obtain ⟨d, more, hdigits, hd⟩ := hexadecimal_begins g
  obtain ⟨c, rest, rfl⟩ := List.exists_cons_of_ne_nil hs
  rw [hdigits] at htake hnumber ⊢
  rw [List.cons_append, groups?]
  · rw [← List.cons_append]
    simp only [htake, hnumber, List.drop_left]
  · exact List.cons_ne_nil _ _
  · exact fun s hs => hd (List.cons.inj hs).1

/-- The characters of groups with colons between them. -/
theorem groupsText_cons (g g' : Nat) (rest : List Nat) : (groupsText (g :: g' :: rest)).toList =
    Numeral.hexadecimal g ++ ':' :: (groupsText (g' :: rest)).toList := by
  rw [groupsText, List.map_cons, List.map_cons, Text.toList_joined_cons]
  simp [groupsText]

theorem groupsText_singleton (g : Nat) :
    (groupsText [g]).toList = Numeral.hexadecimal g := by
  simp [groupsText, Text.joined]

theorem groupsText_ne_nil (g : Nat) (rest : List Nat) : (groupsText (g :: rest)).toList ≠ [] := by
  cases rest with
  | nil =>
    rw [groupsText_singleton]
    exact Nat.toDigits_ne_nil
  | cons g' rest =>
    rw [groupsText_cons]
    exact List.append_ne_nil_of_right_ne_nil _ (List.cons_ne_nil _ _)

/-- **Groups at the end are read.** -/
theorem groups?_groupsText {gs : List Nat} (hgs : ∀ g ∈ gs, IsGroup g) (hleft : gs.length ≤ left) :
    groups? left gap groups (groupsText gs).toList = some (groups ++ gs, gap) := by
  induction gs generalizing left groups with
  | nil =>
    rw [List.append_nil]
    cases left <;> rfl
  | cons g rest ih =>
    have hg := hgs g List.mem_cons_self
    obtain ⟨left, rfl⟩ : ∃ k, left = k + 1 := Nat.exists_eq_succ_of_ne_zero (by
      rintro rfl
      cases hleft)
    cases rest with
    | nil => rw [groupsText_singleton, groups?_last hg]
    | cons g' rest =>
      rw [groupsText_cons, groups?_colon hg (groupsText_ne_nil g' rest),
        ih (fun m hm => hgs m (List.mem_cons_of_mem g hm)) (Nat.le_of_succ_le_succ hleft)]
      simp

/-- **Groups before the gap are read**, and the gap after them. -/
theorem groups?_gap (left : Nat) (groups : List Nat) {gs : List Nat} (hne : gs ≠ [])
    (hgs : ∀ g ∈ gs, IsGroup g) (s : List Char) :
    groups? (gs.length + (left + 1)) none groups ((groupsText gs).toList ++ ':' :: ':' :: s) =
      groups? left (some (groups.length + gs.length + 1)) (groups ++ gs ++ [0]) s := by
  induction gs generalizing groups with
  | nil => exact absurd rfl hne
  | cons g rest ih =>
    have hg := hgs g List.mem_cons_self
    rw [List.length_cons, Nat.add_right_comm]
    cases rest with
    | nil =>
      rw [groupsText_singleton, groups?_colon hg (List.cons_ne_nil _ _), List.length_nil,
        Nat.zero_add, groups?]
      simp
    | cons g' rest =>
      rw [groupsText_cons, List.append_assoc, List.cons_append,
        groups?_colon hg (List.append_ne_nil_of_right_ne_nil _ (List.cons_ne_nil _ _)),
        ih _ (List.cons_ne_nil _ _) fun m hm => hgs m (List.mem_cons_of_mem g hm)]
      simp only [List.length_append, List.length_cons, List.length_nil, List.append_assoc,
        List.cons_append, List.nil_append]
      congr 2
      omega

/-- Groups that an address of 128 bits may begin with, if so many more are to come. -/
structure Room (left : Nat) (gap : Option Nat) (groups : List Nat) : Prop where
  isGroup : ∀ g ∈ groups, IsGroup g
  length_le : groups.length + left ≤ 8
  gap_le : ∀ place ∈ gap, place ≤ groups.length

theorem Room.add {added : List Nat} {gap' : Option Nat} (h : Room (left + added.length) gap groups)
    (hadded : ∀ g ∈ added, IsGroup g)
    (hgap : ∀ place ∈ gap', place ∈ gap ∨ place ≤ groups.length + added.length) :
    Room left gap' (groups ++ added) where
  isGroup := List.forall_mem_append.mpr ⟨h.isGroup, hadded⟩
  length_le := by
    have hle := h.length_le
    rw [List.length_append]
    omega
  gap_le := by
    intro place hplace
    rw [List.length_append]
    rcases hgap place hplace with hmem | hle
    · have hle := h.gap_le place hmem
      omega
    · exact hle

theorem Room.less {left' : Nat} (h : Room left gap groups) (hle : left' ≤ left) :
    Room left' gap groups :=
  ⟨h.isGroup, Nat.le_trans (Nat.add_le_add_left hle _) h.length_le, h.gap_le⟩

/-- An address of 32 bits inside one of 128 bits makes two groups. -/
theorem tailGroups?_groups {s : List Char} {tail : List Nat} (h : tailGroups? s = some tail) :
    tail.length = 2 ∧ ∀ g ∈ tail, IsGroup g := by
  obtain ⟨numbers, hnumbers, h⟩ := Option.bind_eq_some_iff.mp h
  have hbyte : ∀ b ∈ numbers, b ≤ 255 := by
    intro b hb
    obtain ⟨p, -, hp⟩ := of_mem_mapM hnumbers b hb
    unfold byte? at hp
    split at hp
    · cases hp
    · exact of_decide_eq_true (Option.filter_eq_some_iff.mp hp).2
  split at h
  · obtain rfl := Option.some.inj h
    simp only [List.forall_mem_cons, List.not_mem_nil, false_imp_iff, implies_true, and_true]
      at hbyte
    refine ⟨rfl, ?_⟩
    simp only [List.forall_mem_cons, List.not_mem_nil, false_imp_iff, implies_true, and_true,
      IsGroup]
    omega
  · cases h

/-- A group is added. -/
theorem Room.next {g : Nat} {gap' : Option Nat} (h : Room (left + 1) gap groups) (hg : IsGroup g)
    (hgap : ∀ place ∈ gap', place ∈ gap ∨ place ≤ groups.length + 1) :
    Room left gap' (groups ++ [g]) :=
  h.add (List.forall_mem_singleton.mpr hg) hgap

/-- What up to four digits stand for is a group. -/
theorem isGroup_digits (s : List Char) : IsGroup (hexNumber ((s.take 4).takeWhile isHexDigit)) := by
  have hlength : ((s.take 4).takeWhile isHexDigit).length ≤ 4 :=
    Nat.le_trans (List.takeWhile_sublist _).length_le (List.length_take_le _ _)
  exact Nat.lt_of_lt_of_le (hexNumber_lt _) (Nat.pow_le_pow_right (by decide) hlength)

/-- **What is read are groups**, and no more than there is room for. -/
theorem Room.read {s : List Char} {all : List Nat} {gap' : Option Nat} (h : Room left gap groups)
    (hread : groups? left gap groups s = some (all, gap')) : Room 0 gap' all := by
  fun_induction groups? left gap groups s with
  | case1 =>
    obtain ⟨rfl, rfl⟩ := Prod.mk.inj (Option.some.inj hread)
    exact h.less (Nat.zero_le _)
  -- A second gap, a colon at the end and other characters make no address.
  | case2 => cases hread
  | case3 => cases hread
  | case6 => cases hread
  | case8 => cases hread
  | case10 => cases hread
  | case4 left gap groups s hgap ih =>
    refine ih (h.next (show (0 : Nat) < 65536 by decide) ?_) hread
    rintro place ⟨⟩
    exact .inr (Nat.le_refl _)
  | case5 left gap groups s =>
    obtain ⟨rfl, rfl⟩ := Prod.mk.inj (Option.some.inj hread)
    exact (h.next (isGroup_digits s) fun _ hplace => .inl hplace).less (Nat.zero_le _)
  | case7 left gap groups s hne hcolon digits rest hrest hdrop ih =>
    exact ih (h.next (isGroup_digits s) fun _ hplace => .inl hplace) hread
  | case9 left gap groups s hne hcolon digits tail hdrop hroom =>
    obtain ⟨two, htwo, heq⟩ := Option.map_eq_some_iff.mp hread
    obtain ⟨rfl, rfl⟩ := Prod.mk.inj heq
    obtain ⟨hlength, hgroups⟩ := tailGroups?_groups htwo
    obtain ⟨k, rfl⟩ := Nat.exists_eq_succ_of_ne_zero (not_or.mp hroom).2
    have hadd : Room (k + two.length) gap groups := h.less (by omega)
    exact (hadd.add hgroups fun _ hplace => .inl hplace).less (Nat.zero_le _)

/-- The groups of an address whose gap, if there is one, stands for those that are missing. -/
def filled (groups : List Nat) (gap : Option Nat) : Option (List Nat) :=
  gap.elim (if groups.length = 8 then some groups else none) fun place =>
    some (groups.take place ++ List.replicate (8 - groups.length) 0 ++ groups.drop place)

theorem ipv6?_colons (s : List Char) : ipv6? (':' :: ':' :: s) =
    (groups? 7 (some 1) [0] s).bind fun r => filled r.1 r.2 := by
  rw [ipv6?]
  refine Option.bind_congr fun r _ => ?_
  obtain ⟨all, _ | place⟩ := r
  · rfl
  · rfl

theorem ipv6?_cons {c : Char} {s : List Char} (hc : c ≠ ':') : ipv6? (c :: s) =
    (groups? 8 none [] (c :: s)).bind fun r => filled r.1 r.2 := by
  rw [ipv6?]
  · refine Option.bind_congr fun r _ => ?_
    obtain ⟨all, _ | place⟩ := r
    · rfl
    · rfl
  · exact fun rest h => hc (List.cons.inj h).1
  · exact fun rest h => hc (List.cons.inj h).1
  · exact List.cons_ne_nil _ _

/-- An address in groups. -/
def IsAddress (gs : List Nat) : Prop :=
  gs.length = 8 ∧ ∀ g ∈ gs, IsGroup g

theorem isGroup_zero : IsGroup 0 :=
  Nat.succ_pos _

theorem Room.filled {all gs : List Nat} (h : Room 0 gap all) (hgs : filled all gap = some gs) :
    IsAddress gs := by
  cases gap with
  | none =>
    change (if all.length = 8 then some all else none) = some gs at hgs
    split at hgs
    · rename_i hlength
      obtain rfl := Option.some.inj hgs
      exact ⟨hlength, h.isGroup⟩
    · cases hgs
  | some place =>
    have hplace : place ≤ all.length := h.gap_le place rfl
    have hlength := h.length_le
    obtain rfl := Option.some.inj hgs
    constructor
    · simp only [List.length_append, List.length_take, List.length_replicate, List.length_drop]
      omega
    · intro g hg
      rw [List.mem_append, List.mem_append, List.mem_replicate] at hg
      rcases hg with (hg | ⟨-, rfl⟩) | hg
      · exact h.isGroup g (List.mem_of_mem_take hg)
      · exact isGroup_zero
      · exact h.isGroup g (List.mem_of_mem_drop hg)

/-- **What is read is an address**, with or without a gap at the beginning. -/
theorem ipv6?_isAddress {s : List Char} {gs : List Nat} (h : ipv6? s = some gs) : IsAddress gs := by
  rcases s with _ | ⟨c, s⟩
  · cases h
  by_cases hc : c = ':'
  · subst hc
    rcases s with _ | ⟨d, s⟩
    · cases h
    by_cases hd : d = ':'
    · subst hd
      rw [ipv6?_colons] at h
      obtain ⟨⟨all, gap⟩, hread, h⟩ := Option.bind_eq_some_iff.mp h
      refine (Room.read ⟨List.forall_mem_singleton.mpr isGroup_zero, ?_, ?_⟩ hread).filled h
      · decide
      · rintro place ⟨⟩
        exact Nat.le_refl 1
    · rw [ipv6?] at h
      · cases h
      · exact fun rest heq => hd (List.cons.inj heq).1
  · rw [ipv6?_cons hc] at h
    obtain ⟨⟨all, gap⟩, hread, h⟩ := Option.bind_eq_some_iff.mp h
    refine (Room.read ⟨List.forall_mem_nil _, Nat.le_refl 8, ?_⟩ hread).filled h
    rintro place ⟨⟩

/-- A group at the beginning is no colon. -/
theorem groupsText_begins (g : Nat) (rest : List Nat) :
    ∃ c s, (groupsText (g :: rest)).toList = c :: s ∧ c ≠ ':' := by
  obtain ⟨d, more, hdigits, hd⟩ := hexadecimal_begins g
  cases rest with
  | nil => exact ⟨d, more, by rw [groupsText_singleton, hdigits], hd⟩
  | cons g' rest => exact ⟨d, _, by rw [groupsText_cons, hdigits, List.cons_append], hd⟩

/-- An address without a gap is read. -/
theorem ipv6?_groupsText {gs : List Nat} (h : IsAddress gs) :
    ipv6? (groupsText gs).toList = some gs := by
  obtain ⟨g, rest, rfl⟩ : ∃ g rest, gs = g :: rest := by
    refine List.exists_cons_of_length_pos ?_
    rw [h.1]
    exact Nat.succ_pos 7
  obtain ⟨c, s, htext, hc⟩ := groupsText_begins g rest
  have hread : groups? 8 none [] (groupsText (g :: rest)).toList = some ([] ++ g :: rest, none) :=
    groups?_groupsText h.2 (Nat.le_of_eq h.1)
  rw [htext] at hread ⊢
  rw [ipv6?_cons hc, hread, Option.bind_some]
  exact if_pos h.1

/-- An address with a gap is read, if the gap stands for two groups at least. -/
theorem ipv6?_gap {before after : List Nat} {count : Nat} (hcount : 2 ≤ count)
    (h : IsAddress (before ++ List.replicate count 0 ++ after)) :
    ipv6? ((groupsText before).toList ++ ':' :: ':' :: (groupsText after).toList) =
      some (before ++ List.replicate count 0 ++ after) := by
  obtain ⟨hlength, hgroups⟩ := h
  simp only [List.length_append, List.length_replicate] at hlength
  rw [List.forall_mem_append, List.forall_mem_append] at hgroups
  obtain ⟨⟨hbefore, -⟩, hafter⟩ := hgroups
  -- The zero that is read for the gap is one of those that it stands for.
  have hfilled {left : Nat} (hleft : after.length ≤ left) :
      ((groups? left (some (before.length + 1)) (before ++ [0]) (groupsText after).toList).bind
        fun r => filled r.1 r.2) = some (before ++ List.replicate count 0 ++ after) := by
    have hzero : [0] ++ List.replicate (count - 1) 0 = List.replicate count 0 := by
      rw [List.singleton_append, ← List.replicate_succ, Nat.sub_add_cancel (by omega)]
    have hmissing : 8 - (before ++ [0] ++ after).length = count - 1 := by
      simp only [List.length_append, List.length_singleton]
      omega
    have hplace : (before ++ [0]).length = before.length + 1 := by simp
    rw [groups?_groupsText hafter hleft, Option.bind_some]
    change some _ = _
    simp only
    rw [hmissing, ← hplace, List.take_left, List.drop_left, List.append_assoc before, hzero]
  cases before with
  | nil => exact (ipv6?_colons _).trans (hfilled (by omega))
  | cons g rest =>
    obtain ⟨c, s, htext, hc⟩ := groupsText_begins g rest
    have hleft : 8 = (g :: rest).length + (7 - (g :: rest).length + 1) := by omega
    have hread := groups?_gap (7 - (g :: rest).length) [] (List.cons_ne_nil g rest) hbefore
    rw [← hleft, List.length_nil, Nat.zero_add, List.nil_append] at hread
    rw [htext] at hread ⊢
    rw [List.cons_append, ipv6?_cons hc, ← List.cons_append, hread]
    exact hfilled (by omega)

/-- **An address of 128 bits is read back.** -/
theorem ipv6?_ipv6Text {gs : List Nat} (h : IsAddress gs) :
    ipv6? (ipv6Text gs).toList = some gs := by
  unfold ipv6Text
  generalize longestRun gs = place
  simp only
  split
  · exact ipv6?_groupsText h
  · rename_i hcount
    rw [Nat.not_lt] at hcount
    -- What is left out is the run of zeros at the place.
    have hzeros : (gs.drop place).takeWhile (· == 0) =
        List.replicate (zerosFrom gs place) 0 := by
      refine List.eq_replicate_iff.mpr ⟨rfl, fun g hg => ?_⟩
      exact beq_iff_eq.mp (List.mem_takeWhile_imp (p := (· == 0)) hg)
    have hrest : gs.drop (place + zerosFrom gs place) = (gs.drop place).dropWhile (· == 0) := by
      rw [← List.drop_drop]
      conv_lhs => rw [← List.takeWhile_append_dropWhile (p := (· == 0)) (l := gs.drop place)]
      exact List.drop_left' rfl
    have hsplit : gs.take place ++ List.replicate (zerosFrom gs place) 0 ++
        gs.drop (place + zerosFrom gs place) = gs := by
      rw [← hzeros, hrest, List.append_assoc, List.takeWhile_append_dropWhile,
        List.take_append_drop]
    have hread := ipv6?_gap hcount (hsplit.symm ▸ h)
    rw [hsplit] at hread
    simpa using hread

/-- The characters of groups are digits and colons. -/
theorem of_mem_groupsText {P : Char → Prop} (hdigit : ∀ n < 16, P n.digitChar) (hcolon : P ':')
    (gs : List Nat) : ∀ c ∈ (groupsText gs).toList, P c := by
  induction gs with
  | nil => exact fun c hc => nomatch hc
  | cons g rest ih =>
    intro c hc
    cases rest with
    | nil =>
      rw [groupsText_singleton] at hc
      exact of_mem_hexadecimal hdigit hc
    | cons g' rest =>
      rw [groupsText_cons, List.mem_append, List.mem_cons] at hc
      rcases hc with hc | rfl | hc
      · exact of_mem_hexadecimal hdigit hc
      · exact hcolon
      · exact ih c hc

theorem of_mem_ipv6Text {P : Char → Prop} (hdigit : ∀ n < 16, P n.digitChar) (hcolon : P ':')
    (gs : List Nat) : ∀ c ∈ (ipv6Text gs).toList, P c := by
  have hgroups := of_mem_groupsText hdigit hcolon
  unfold ipv6Text
  simp only
  split
  · exact hgroups gs
  · intro c hc
    rw [String.toList_append, String.toList_append, List.mem_append, List.mem_append] at hc
    rcases hc with (hc | hc) | hc
    · exact hgroups _ c hc
    · have hc : c = ':' := by simpa using hc
      exact hc ▸ hcolon
    · exact hgroups _ c hc

end RegionClient.Host
