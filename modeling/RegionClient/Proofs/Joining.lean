import RegionClient.Url.Parse

set_option autoImplicit false

/-! # Where relative addresses lead

An address that is read relative to a base takes its server from the base, unless it names one
itself: by a scheme that it does not share with the base, or by two slashes before an authority. A
text of plain characters, which may stand in a path as they are, is read as a path.

Main statements: `join_server`, `join_plain`.
-/

namespace RegionClient.Url

variable {base url : Url} {input scheme : String} {parts : Parts} {names : List String}
  {s : List Char} {domains : DomainForm}

/-! ## Servers -/

/-- How many slashes a text begins with, where a backslash is as good as a slash. -/
def slashes (s : List Char) : Nat :=
  (s.takeWhile (isSlash true)).length

/-- **An address names a server**: it has a scheme of its own, or two slashes before an
authority. -/
def namesServer (base : Url) (input : String) : Bool :=
  let body := (Parts.of (clean input.toList)).body
  match scheme? body with
  | some (scheme, rest) => scheme != base.scheme || !isSpecial scheme || 2 ≤ slashes rest
  | none => 2 ≤ slashes body

theorem server_eq (hscheme : url.scheme = base.scheme)
    (hauthority : url.authority = base.authority) : url.server = base.server := by
  simp only [server, host?, hscheme, hauthority]

/-- The server does not depend on user name and password. -/
theorem withoutUserInfo_server (u : Url) : u.withoutUserInfo.server = u.server := by
  cases h : u.authority with
  | none => simp [server, host?, withoutUserInfo, h]
  | some a => simp [server, host?, withoutUserInfo, h]

theorem addQuery_scheme (u : Url) (parameters : List (String × String)) :
    (u.addQuery parameters).scheme = u.scheme := by
  unfold addQuery
  split <;> rfl

theorem addQuery_server (u : Url) (parameters : List (String × String)) :
    (u.addQuery parameters).server = u.server := by
  unfold addQuery
  split <;> rfl

/-! ## Reading -/

/-- An address with slashes before an authority has the authority that is read there. -/
theorem afterSlashes_eq_ok (h : afterSlashes domains parts scheme s = .ok url) : ∃ a,
    readAuthority domains scheme (s.takeWhile fun c => !isSlash (isSpecial scheme) c) = .ok a ∧
      url = assemble parts scheme (some a)
        (pathAfterAuthority scheme (s.dropWhile fun c => !isSlash (isSpecial scheme) c)) := by
  simp only [afterSlashes, bind, Except.bind] at h
  split at h
  · cases h
  · rename_i a ha
    exact ⟨a, ha, (Except.ok.inj h).symm⟩

theorem afterSlashes_scheme (h : afterSlashes domains parts scheme s = .ok url) :
    url.scheme = scheme := by
  obtain ⟨a, -, rfl⟩ := afterSlashes_eq_ok h
  rfl

theorem relative_scheme (h : relative domains parts base names s = .ok url) :
    url.scheme = base.scheme := by
  unfold relative at h
  split at h
  · obtain rfl := Except.ok.inj h
    split <;> rfl
  · split at h
    · split at h
      · split at h
        · exact afterSlashes_scheme h
        · obtain rfl := Except.ok.inj h
          rfl
      · obtain rfl := Except.ok.inj h
        rfl
    · obtain rfl := Except.ok.inj h
      rfl

theorem relative_authority (h : relative domains parts base names s = .ok url)
    (hs : slashes s < 2) : url.authority = base.authority := by
  unfold relative at h
  split at h
  · obtain rfl := Except.ok.inj h
    split <;> rfl
  · rename_i c rest
    split at h
    · rename_i hc
      split at h
      · rename_i d after
        split at h
        · rename_i hd
          -- Both characters count as slashes.
          have hcSlash : isSlash true c = true := by
            rcases hc with rfl | rfl <;> rfl
          have hdSlash : isSlash true d = true := by
            rcases hd with rfl | rfl <;> rfl
          simp only [slashes, List.takeWhile_cons, hcSlash, hdSlash, if_true,
            List.length_cons] at hs
          omega
        · obtain rfl := Except.ok.inj h
          rfl
      · obtain rfl := Except.ok.inj h
        rfl
    · obtain rfl := Except.ok.inj h
      rfl

theorem fileAfterSlashes_scheme (h : fileAfterSlashes domains parts s = .ok url) :
    url.scheme = "file" := by
  simp only [fileAfterSlashes, bind, Except.bind] at h
  split at h
  · obtain rfl := Except.ok.inj h
    rfl
  · split at h
    · cases h
    · obtain rfl := Except.ok.inj h
      rfl

theorem file_scheme {base : Option Url} (hbase : ∀ b, base = some b → b.scheme = "file")
    (h : file domains parts base s = .ok url) : url.scheme = "file" := by
  have hdefault : (base.getD localFiles).scheme = "file" := by
    cases base with
    | none => rfl
    | some b => exact hbase b rfl
  unfold file at h
  split at h
  · split at h
    · split at h
      · split at h
        · exact fileAfterSlashes_scheme h
        · split at h
          · obtain rfl := Except.ok.inj h
            rfl
          · obtain rfl := Except.ok.inj h
            rfl
      · obtain rfl := Except.ok.inj h
        rfl
    · split at h
      · obtain rfl := Except.ok.inj h
        rfl
      · exact (relative_scheme h).trans hdefault
  · exact (relative_scheme h).trans hdefault

/-! ## Joining -/

/-- An address with the scheme of its base, but without two slashes, is read relative to it. -/
theorem withScheme_authority (h : withScheme domains parts (some base) base.scheme s = .ok url)
    (hspecial : isSpecial base.scheme = true) (hs : slashes s < 2) (hfile : url.scheme ≠ "file") :
    url.scheme = base.scheme ∧ url.authority = base.authority := by
  have hbase : (some base).filter (fun b => b.scheme == base.scheme) = some base := by
    simp [Option.filter]
  unfold withScheme at h
  simp only [hbase, hspecial, if_true] at h
  split at h
  · rename_i hscheme
    -- What is read as the address of a file is one.
    refine absurd (file_scheme ?_ h) hfile
    intro b hb
    rw [← Option.some.inj hb, hscheme]
  · split at h
    · split at h
      · exact ⟨relative_scheme h, relative_authority h hs⟩
      · cases h
    · rename_i hslashes
      exact absurd hs hslashes

/-- An address without a scheme and without two slashes is read relative to the base. -/
theorem withoutScheme_authority (h : withoutScheme domains parts base = .ok url)
    (hs : slashes parts.body < 2) (hfile : url.scheme ≠ "file") :
    url.scheme = base.scheme ∧ url.authority = base.authority := by
  unfold withoutScheme at h
  split at h
  -- A base without segments takes a fragment only, and that is no slash.
  · split at h
    · exact ⟨relative_scheme h, relative_authority h (by decide)⟩
    · cases h
  · split at h
    · rename_i hscheme
      refine absurd (file_scheme ?_ h) hfile
      intro b hb
      rw [← Option.some.inj hb, hscheme]
    · exact ⟨relative_scheme h, relative_authority h hs⟩

/-- An address without a scheme has that of the base. -/
theorem join_scheme (h : base.join domains input = .ok url)
    (hscheme : scheme? (Parts.of (clean input.toList)).body = none) : url.scheme = base.scheme := by
  unfold join resolve at h
  simp only [hscheme, withoutScheme] at h
  split at h
  · split at h
    · exact relative_scheme h
    · cases h
  · split at h
    · rename_i hfile
      have hbase : ∀ b, some base = some b → b.scheme = "file" := by
        intro b hb
        rw [← Option.some.inj hb, hfile]
      exact (file_scheme hbase h).trans hfile.symm
    · exact relative_scheme h

/-- **An address that names no server has that of the base**, unless it leads to files. -/
theorem join_server (h : base.join domains input = .ok url) (hname : base.namesServer input = false)
    (hfile : url.scheme ≠ "file") : url.server = base.server := by
  suffices hsame : url.scheme = base.scheme ∧ url.authority = base.authority from
    server_eq hsame.1 hsame.2
  unfold join resolve at h
  unfold namesServer at hname
  generalize Parts.of (clean input.toList) = parts at h hname
  -- A scheme that is shared with the base is read as if it were not there.
  cases hscheme : scheme? parts.body with
  | some found =>
      obtain ⟨scheme, rest⟩ := found
      simp only [hscheme, Bool.or_eq_false_iff, bne_eq_false_iff_eq, Bool.not_eq_false',
        decide_eq_false_iff_not, Nat.not_le] at h hname
      obtain ⟨⟨rfl, hspecial⟩, hslashes⟩ := hname
      exact withScheme_authority h hspecial hslashes hfile
  | none =>
      simp only [hscheme, decide_eq_false_iff_not, Nat.not_le] at h hname
      exact withoutScheme_authority h hname hfile

/-! ## Plain beginnings -/

section

variable {pre : List Char}

/-- What may stand in a path is no control and no space. -/
theorem lt_of_inPath {c : Char} (h : Percent.inPath c = false) : 0x20 < c.toNat := by
  simp only [Percent.inPath, Percent.inFragment, Percent.isControl, Bool.or_eq_false_iff,
    decide_eq_false_iff_not, Nat.not_lt, List.mem_cons, not_or] at h
  obtain ⟨⟨⟨hlow, -⟩, hspace, -⟩, -⟩ := h
  have hne : c.toNat ≠ 0x20 := fun heq => hspace (Char.toNat_inj.mp heq)
  omega

/-- Nothing is cut off from a plain beginning. -/
theorem clean_append (hne : pre ≠ []) (h : ∀ c ∈ pre, Percent.inPath c = false) (s : List Char) :
    ∃ rest, clean (pre ++ s) = pre ++ rest ∧ (s = [] → rest = []) := by
  have hedge : ∀ c ∈ pre, ¬decide (c.toNat ≤ 0x20) = true := by
    intro c hc
    have hlt := lt_of_inPath (h c hc)
    rw [decide_eq_true_eq]
    omega
  have hstart : (pre ++ s).dropWhile (fun c => decide (c.toNat ≤ 0x20)) = pre ++ s := by
    obtain ⟨c, pre', rfl⟩ := List.exists_cons_of_ne_nil hne
    exact List.dropWhile_cons_of_neg (hedge c List.mem_cons_self)
  have hend : pre.reverse.dropWhile (fun c => decide (c.toNat ≤ 0x20)) = pre.reverse := by
    cases hrev : pre.reverse with
    | nil => rfl
    | cons c rest =>
        refine List.dropWhile_cons_of_neg (hedge c ?_)
        rw [← List.mem_reverse, hrev]
        exact List.mem_cons_self
  -- What is cut off at the end is cut off before the plain beginning is reached.
  have hboth : (s.reverse ++ pre.reverse).dropWhile (fun c => decide (c.toNat ≤ 0x20)) =
      s.reverse.dropWhile (fun c => decide (c.toNat ≤ 0x20)) ++ pre.reverse := by
    rw [List.dropWhile_append, hend]
    split
    · rename_i hempty
      rw [List.isEmpty_iff.mp hempty, List.nil_append]
    · rfl
  have hfilter : pre.filter (fun c => !(c == '\t' || c == '\n' || c == '\r')) = pre := by
    refine List.filter_eq_self.mpr fun c hc => ?_
    have hlt := lt_of_inPath (h c hc)
    have hne : ∀ d : Char, d.toNat ≤ 0x20 → c ≠ d := by
      rintro d hd rfl
      omega
    simp [hne '\t' (by decide), hne '\n' (by decide), hne '\r' (by decide)]
  refine ⟨((s.reverse.dropWhile fun c => decide (c.toNat ≤ 0x20)).reverse).filter
    fun c => !(c == '\t' || c == '\n' || c == '\r'), ?_, ?_⟩
  · rw [clean, hstart, List.reverse_append, hboth, List.reverse_append, List.reverse_reverse,
      List.filter_append, hfilter]
  · rintro rfl
    rfl

/-- A cut at a character leaves a beginning without it as it is. -/
theorem cutFirst_append {x : Char} (h : ∀ c ∈ pre, c ≠ x) (s : List Char) :
    cutFirst x (pre ++ s) = (pre ++ (cutFirst x s).1, (cutFirst x s).2) := by
  induction pre with
  | nil => rfl
  | cons c pre ih =>
      have hc : c ≠ x := h c List.mem_cons_self
      rw [List.cons_append, cutFirst, if_neg hc, ih fun d hd => h d (List.mem_cons_of_mem c hd)]
      rfl

/-- A plain beginning is part of the scheme, authority and path of an address. -/
theorem of_clean_append (hne : pre ≠ []) (h : ∀ c ∈ pre, Percent.inPath c = false)
    (s : List Char) : ∃ rest query fragment, Parts.of (clean (pre ++ s)) =
      ⟨pre ++ rest, query, fragment⟩ ∧ (s = [] → rest = [] ∧ query = none ∧ fragment = none) := by
  obtain ⟨rest, hclean, hall⟩ := clean_append hne h s
  have hother : ∀ d : Char, Percent.inPath d = true → ∀ c ∈ pre, c ≠ d := by
    rintro d hd c hc rfl
    rw [h c hc] at hd
    cases hd
  have hfragment := cutFirst_append (hother '#' (by decide)) rest
  have hquery := cutFirst_append (hother '?' (by decide)) (cutFirst '#' rest).1
  refine ⟨(cutFirst '?' (cutFirst '#' rest).1).1, (cutFirst '?' (cutFirst '#' rest).1).2,
    (cutFirst '#' rest).2, ?_, ?_⟩
  · rw [hclean, Parts.of, hfragment]
    simp only [hquery]
  · intro hs
    rw [hall hs]
    exact ⟨rfl, rfl, rfl⟩

/-- An address that begins with a slash has no scheme. -/
theorem scheme_slash (s : List Char) : scheme? (Parts.of (clean ('/' :: s))).body = none := by
  have hplain : ∀ c ∈ ['/'], Percent.inPath c = false := List.forall_mem_singleton.mpr rfl
  obtain ⟨rest, query, fragment, hparts, -⟩ := of_clean_append (List.cons_ne_nil _ _) hplain s
  rw [show '/' :: s = ['/'] ++ s from rfl, hparts]
  rfl

/-- One slash before a plain name names no server. -/
theorem namesServer_path (base : Url) {c : Char} {s : List Char} (h : input.toList = '/' :: c :: s)
    (hplain : Percent.inPath c = false) (hslash : isSlash true c = false) :
    base.namesServer input = false := by
  have hpre : ∀ d ∈ ['/', c], Percent.inPath d = false := by
    intro d hd
    simp only [List.mem_cons, List.not_mem_nil, or_false] at hd
    rcases hd with rfl | rfl
    · rfl
    · exact hplain
  obtain ⟨rest, query, fragment, hparts, -⟩ := of_clean_append (List.cons_ne_nil _ _) hpre s
  have hscheme : scheme? (['/', c] ++ rest) = none := rfl
  have hone : slashes (['/', c] ++ rest) = 1 := by
    have hfirst : isSlash true '/' = true := rfl
    simp [slashes, hfirst, hslash]
  unfold namesServer
  rw [h, show '/' :: c :: s = ['/', c] ++ s from rfl, hparts]
  simp only [hscheme, hone]
  rfl

/-- **A plain text without a scheme and without a slash before it is read beneath the base.** -/
theorem join_plain (hpath : base.path = .segments names) (hfile : base.scheme ≠ "file") {c : Char}
    (h : input.toList = c :: s) (hplain : ∀ d ∈ c :: s, Percent.inPath d = false)
    (hslash : isSlash true c = false) (hscheme : scheme? (c :: s) = none) :
    base.join domains input = .ok (assemble ⟨c :: s, none, none⟩ base.scheme base.authority
      (segmentsOn base.scheme (UrlPath.parent (rules base.scheme) names) (c :: s))) := by
  obtain ⟨rest, query, fragment, hparts, hall⟩ :=
    of_clean_append (List.cons_ne_nil c s) hplain []
  obtain ⟨rfl, rfl, rfl⟩ := hall rfl
  simp only [List.append_nil] at hparts
  have hno : ¬(c = '/' ∨ c = '\\') := by
    rintro (rfl | rfl)
    · cases hslash
    · cases hslash
  unfold join resolve
  rw [h, hparts]
  simp only [hscheme, withoutScheme, hpath, if_neg hfile, relative, if_neg hno]

end

end RegionClient.Url
