import RegionClient.Proofs.ReadUrls

set_option autoImplicit false

/-! # Written authorities are read back

The user name and the password before the last at sign, the host, and the port after the first colon
that stands outside of brackets: each part has none of the signs at which the next one is cut off.

Main statement: `Url.readAuthority_text`.
-/

namespace RegionClient

namespace Url

variable {domains : DomainForm} {scheme : String} {s : List Char}

/-! ## Cutting -/

theorem cutLast_free (h : ∀ c ∈ s, c ≠ '@') : cutLast '@' s = (none, s) := by
  induction s with
  | nil => rfl
  | cons c s ih =>
    rw [cutLast, ih fun d hd => h d (List.mem_cons_of_mem c hd)]
    exact if_neg (h c List.mem_cons_self)

theorem cutLast_append {before : List Char} (h : ∀ c ∈ s, c ≠ '@') :
    cutLast '@' (before ++ '@' :: s) = (some before, s) := by
  induction before with
  | nil =>
    rw [List.nil_append, cutLast, cutLast_free h]
    rfl
  | cons c before ih => rw [List.cons_append, cutLast, ih]

theorem cutPort_free {host : List Char} (h : ∀ c ∈ host, c ≠ ':' ∧ c ≠ '[') :
    cutPort false (host ++ s) = (host ++ (cutPort false s).1, (cutPort false s).2) := by
  induction host with
  | nil => rfl
  | cons c host ih =>
    obtain ⟨hcolon, hbracket⟩ := h c List.mem_cons_self
    have hstate : (c == '[' || (false && c != ']')) = false := by simp [hbracket]
    rw [List.cons_append, cutPort, if_neg (fun hc => hcolon hc.1), hstate,
      ih fun d hd => h d (List.mem_cons_of_mem c hd)]
    rfl

theorem cutPort_inner {inner : List Char} (h : ∀ c ∈ inner, c ≠ ']') :
    cutPort true (inner ++ s) = (inner ++ (cutPort true s).1, (cutPort true s).2) := by
  induction inner with
  | nil => rfl
  | cons c inner ih =>
    have hstate : (c == '[' || (true && c != ']')) = true := by
      simp [h c List.mem_cons_self]
    rw [List.cons_append, cutPort, if_neg (fun hc => nomatch hc.2), hstate,
      ih fun d hd => h d (List.mem_cons_of_mem c hd)]
    rfl

/-- What follows a host does not belong to it. -/
theorem cutPort_host {host : List Char} (h : Host.StandsAsHost host) :
    cutPort false (host ++ s) = (host ++ (cutPort false s).1, (cutPort false s).2) := by
  rcases h.colons with hfree | ⟨inner, rfl, hinner⟩
  · exact cutPort_free hfree
  · have hend : cutPort true (']' :: s) = (']' :: (cutPort false s).1, (cutPort false s).2) := rfl
    have hbegin (t : List Char) : cutPort false ('[' :: t) =
        ('[' :: (cutPort true t).1, (cutPort true t).2) := rfl
    rw [List.cons_append, hbegin, List.append_assoc, List.singleton_append, cutPort_inner hinner,
      hend]
    simp

/-! ## Characters -/

/-- A character of an authority, which neither ends it nor is cut off. -/
structure IsAuthorityChar (c : Char) : Prop where
  visible : 0x20 < c.toNat
  inner : c ∉ ['/', '\\', '?', '#']

instance (c : Char) : Decidable (IsAuthorityChar c) :=
  decidable_of_iff (0x20 < c.toNat ∧ c ∉ ['/', '\\', '?', '#'])
    ⟨fun h => ⟨h.1, h.2⟩, fun h => ⟨h.visible, h.inner⟩⟩

/-- What a user name and a password do not have. -/
theorem of_not_inUserInfo {c : Char} (h : Percent.inUserInfo c = false) :
    IsAuthorityChar c ∧ c ≠ ':' ∧ c ≠ '@' := by
  have hpath : Percent.inPath c = false := by
    simp only [Percent.inUserInfo, Bool.or_eq_false_iff] at h
    exact h.1
  have hne : ∀ d : Char, Percent.inUserInfo d = true → c ≠ d := by
    rintro d hd rfl
    rw [h] at hd
    cases hd
  refine ⟨⟨lt_of_inPath hpath, ?_⟩, hne ':' (by decide), hne '@' (by decide)⟩
  simp [hne '/' (by decide), hne '\\' (by decide), hne '?' (by decide), hne '#' (by decide)]

/-- What is written before an at sign. -/
def userInfo (a : Authority) : Option (List Char) :=
  if a.hasUserInfo then
    some (a.username.toList ++ if a.password = "" then [] else ':' :: a.password.toList)
  else none

/-- What is written after the colon that follows a host. -/
def portDigits (a : Authority) : Option (List Char) :=
  a.port.map (Nat.toDigits 10)

theorem authority_toList (a : Authority) : a.text.toList =
    ((userInfo a).map (· ++ ['@'])).getD [] ++
      (a.host.text.toList ++ ((portDigits a).map (':' :: ·)).getD []) := by
  have huser : a.userInfoText.toList = ((userInfo a).map (· ++ ['@'])).getD [] := by
    unfold Authority.userInfoText userInfo
    split
    · split
      · simp
      · simp
    · rfl
  have hport : ((a.port.map fun p => ":" ++ Numeral.ofNat p).getD "").toList =
      ((portDigits a).map (':' :: ·)).getD [] := by
    cases h : a.port with
    | none => simp [portDigits, h]
    | some p => simp [portDigits, h, Numeral.ofNat]
  rw [Authority.text, String.toList_append, String.toList_append, huser, hport, List.append_assoc]

/-- Digits may stand in an authority. -/
theorem isAuthorityChar_digit {p : Nat} {c : Char} (h : c ∈ Nat.toDigits 10 p) :
    IsAuthorityChar c ∧ c ≠ '@' :=
  Numeral.of_isDigit (P := fun c => IsAuthorityChar c ∧ c ≠ '@') (by decide)
    (Numeral.isDigit_toDigits h)

/-- What follows the at sign has none. -/
theorem server_chars {a : Authority} (h : IsAuthority domains scheme a) :
    ∀ c ∈ a.host.text.toList ++ ((portDigits a).map (':' :: ·)).getD [],
      IsAuthorityChar c ∧ c ≠ '@' := by
  refine List.forall_mem_append.mpr ⟨fun c hc => ?_, ?_⟩
  · obtain ⟨hvisible, hinner⟩ := h.stands.chars c hc
    simp only [List.mem_cons, List.not_mem_nil, or_false, not_or] at hinner
    refine ⟨⟨hvisible, ?_⟩, hinner.2.2.2.2.1⟩
    simp [hinner]
  · cases hport : a.port with
    | none => simp [portDigits, hport]
    | some p =>
      simp only [portDigits, hport, Option.map_some, Option.getD_some, List.forall_mem_cons]
      exact ⟨by decide, fun c hc => isAuthorityChar_digit hc⟩

theorem userInfo_chars {a : Authority} (h : IsAuthority domains scheme a) :
    ∀ c ∈ ((userInfo a).map (· ++ ['@'])).getD [], IsAuthorityChar c := by
  have hname : ∀ c ∈ a.username.toList, IsAuthorityChar c := fun c hc =>
    (of_not_inUserInfo (h.username c hc)).1
  have hpassword : ∀ c ∈ a.password.toList, IsAuthorityChar c := fun c hc =>
    (of_not_inUserInfo (h.password c hc)).1
  unfold userInfo
  split
  · simp only [Option.map_some, Option.getD_some]
    refine List.forall_mem_append.mpr ⟨List.forall_mem_append.mpr ⟨hname, ?_⟩,
      List.forall_mem_singleton.mpr (by decide)⟩
    split
    · exact List.forall_mem_nil _
    · exact List.forall_mem_cons.mpr ⟨by decide, hpassword⟩
  · exact List.forall_mem_nil _

theorem authority_chars {a : Authority} (h : IsAuthority domains scheme a) :
    ∀ c ∈ a.text.toList, IsAuthorityChar c := by
  rw [authority_toList]
  exact List.forall_mem_append.mpr ⟨userInfo_chars h, fun c hc => (server_chars h c hc).1⟩

theorem readPort_text {port : Option Nat}
    (h : ∀ p ∈ port, p < 65536 ∧ usualPort? scheme ≠ some p) :
    readPort scheme ((port.map (Nat.toDigits 10)).getD []) = .ok port := by
  cases port with
  | none => rfl
  | some p =>
    obtain ⟨hlt, husual⟩ := h p rfl
    rw [Option.map_some, Option.getD_some, readPort, if_neg Nat.toDigits_ne_nil,
      Numeral.natural?_toDigits, Option.filter_some, if_pos (decide_eq_true hlt)]
    simp only [if_neg husual]

/-- **The written form of an authority is read as that authority.** -/
theorem readAuthority_text {a : Authority} (h : IsAuthority domains scheme a) :
    readAuthority domains scheme a.text.toList = .ok a := by
  have hcut : cutLast '@' a.text.toList = (userInfo a,
      a.host.text.toList ++ ((portDigits a).map (':' :: ·)).getD []) := by
    have hfree := fun c hc => (server_chars h c hc).2
    rw [authority_toList]
    cases userInfo a with
    | none => exact cutLast_free hfree
    | some before =>
      rw [Option.map_some, Option.getD_some, List.append_assoc, List.singleton_append]
      exact cutLast_append hfree
  have hname : cutFirst ':' ((userInfo a).getD []) = (a.username.toList,
      if a.password = "" then none else some a.password.toList) := by
    have hfree : ∀ c ∈ a.username.toList, c ≠ ':' := fun c hc =>
      (of_not_inUserInfo (h.username c hc)).2.1
    unfold userInfo
    split
    · rw [Option.getD_some, cutFirst_append hfree]
      split
      · simp [cutFirst]
      · simp [cutFirst]
    · rename_i hnone
      simp only [Authority.hasUserInfo, Bool.not_eq_true', Bool.not_eq_false,
        Bool.and_eq_true, String.isEmpty_iff] at hnone
      rw [hnone.1, hnone.2, if_pos rfl]
      rfl
  have hserver : cutPort false (a.host.text.toList ++ ((portDigits a).map (':' :: ·)).getD []) =
      (a.host.text.toList, portDigits a) := by
    have hport : cutPort false (((portDigits a).map (':' :: ·)).getD []) = ([], portDigits a) := by
      cases portDigits a <;> rfl
    rw [cutPort_host h.stands, hport, List.append_nil]
  refine (readAuthority_iff hcut hname hserver).mpr
    ⟨a.host, a.port, h.host, ?_, readPort_text h.port, ?_⟩
  · rintro ⟨hempty, hother⟩
    obtain ⟨husername, hpassword, hport⟩ := h.alone hempty
    simp [userInfo, Authority.hasUserInfo, portDigits, husername, hpassword, hport] at hother
  · have hsecret : (if a.password = "" then none else some a.password.toList).getD [] =
        a.password.toList := by
      split
      · rename_i hempty
        rw [hempty]
        rfl
      · rfl
    rw [hsecret, Percent.encode_plain h.username, Percent.encode_plain h.password,
      String.ofList_toList, String.ofList_toList]

end Url

end RegionClient
