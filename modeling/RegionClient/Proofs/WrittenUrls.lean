import RegionClient.Proofs.AddedSegments
import RegionClient.Proofs.WrittenAuthorities

set_option autoImplicit false

/-! # Written URLs are read back

The written form of a URL that was read is read as that URL, part by part: nothing in a part ends it
early, and what is encoded stays as it is. The one text that is cut short is a path without structure
that ends in spaces, which do not count at the end of an address; with a slash at the end of the path
there is none (`Url.parse_closed`).

Main statements: `Url.withScheme_text`, `Url.parse_text`, `Url.parse_closed`.
-/

namespace RegionClient

namespace Url

variable {domains : DomainForm} {scheme : String} {s : List Char} {parts : Parts} {u : Url}

/-! ## Cutting a written form -/

/-- A character that is never left out of an address, and ends neither path nor query. -/
def IsBody (c : Char) : Prop :=
  0x20 ≤ c.toNat ∧ c ≠ '?' ∧ c ≠ '#'

theorem clean_eq (h : ∀ c ∈ s, 0x20 ≤ c.toNat) (hhead : ∀ c ∈ s.head?, 0x20 < c.toNat)
    (hlast : ∀ c ∈ s.getLast?, 0x20 < c.toNat) : clean s = s := by
  have hkept (t : List Char) (ht : ∀ c ∈ t.head?, 0x20 < c.toNat) :
      t.dropWhile (fun c => decide (c.toNat ≤ 0x20)) = t := by
    cases t with
    | nil => rfl
    | cons c t =>
      have hc := ht c rfl
      exact List.dropWhile_cons_of_neg (by simpa using hc)
  have hfilter : s.filter (fun c => !(c == '\t' || c == '\n' || c == '\r')) = s := by
    refine List.filter_eq_self.mpr fun c hc => ?_
    have hlow := h c hc
    have hne : ∀ d : Char, d.toNat < 0x20 → c ≠ d := by
      rintro d hd rfl
      omega
    simp [hne '\t' (by decide), hne '\n' (by decide), hne '\r' (by decide)]
  rw [clean, hkept s hhead, hkept s.reverse (by rwa [List.head?_reverse]), List.reverse_reverse,
    hfilter]

theorem parts_text {body : List Char} {query fragment : Option (List Char)}
    (hbody : ∀ c ∈ body, c ≠ '?' ∧ c ≠ '#') (hquery : ∀ q ∈ query, ∀ c ∈ q, c ≠ '#') :
    Parts.of (body ++ (query.map ('?' :: ·)).getD [] ++ (fragment.map ('#' :: ·)).getD []) =
      ⟨body, query, fragment⟩ := by
  have hbefore : ∀ c ∈ body ++ (query.map ('?' :: ·)).getD [], c ≠ '#' := by
    refine List.forall_mem_append.mpr ⟨fun c hc => (hbody c hc).2, ?_⟩
    cases query with
    | none => exact List.forall_mem_nil _
    | some q => exact List.forall_mem_cons.mpr ⟨by decide, hquery q rfl⟩
  have hfragment : cutFirst '#' ((fragment.map ('#' :: ·)).getD []) = ([], fragment) := by
    cases fragment <;> rfl
  have hquestion : cutFirst '?' ((query.map ('?' :: ·)).getD []) = ([], query) := by
    cases query <;> rfl
  rw [Parts.of, cutFirst_append hbefore, hfragment]
  simp only [List.append_nil]
  rw [cutFirst_append fun c hc => (hbody c hc).1, hquestion, List.append_nil]

theorem scheme?_text (h : IsScheme scheme) (rest : List Char) :
    scheme? (scheme.toList ++ ':' :: rest) = some (scheme, rest) := by
  obtain ⟨c, more, hscheme, halpha⟩ := h.begins
  have hall : ∀ d ∈ scheme.toList, isSchemeChar d = true := fun d hd => (h.chars d hd).1
  have hcolon : isSchemeChar ':' = false := by decide
  have htake : (scheme.toList ++ ':' :: rest).takeWhile isSchemeChar = scheme.toList := by
    rw [List.takeWhile_append_of_pos hall, List.takeWhile_cons_of_neg (by simp [hcolon]),
      List.append_nil]
  have hdrop : (scheme.toList ++ ':' :: rest).dropWhile isSchemeChar = ':' :: rest := by
    rw [List.dropWhile_append_of_pos hall, List.dropWhile_cons_of_neg (by simp [hcolon])]
  have hlower : scheme.toList.map Char.toLower = scheme.toList :=
    (List.map_congr_left fun d hd => (h.chars d hd).2).trans (List.map_id _)
  have hsame : String.ofList ((scheme.toList ++ ':' :: rest).takeWhile isSchemeChar |>.map
      Char.toLower) = scheme := by
    rw [htake, hlower, String.ofList_toList]
  unfold scheme?
  rw [hdrop, hsame]
  rw [hscheme, List.cons_append]
  simp only [halpha, if_true]

/-! ## Places -/

/-- What stands between the colon after the scheme and the query. -/
def placeText (authority : Option Authority) (path : UrlPath) : List Char :=
  (beforePath ⟨"", authority, path, none, none⟩).toList ++ path.text.toList

/-- The path after an authority is read back. -/
theorem pathAfterAuthority_text {names : List String} (hne : isSpecial scheme = true → names ≠ [])
    (h : AreKept scheme names) :
    pathAfterAuthority scheme (UrlPath.segments names).text.toList = .segments names := by
  cases names with
  | nil => exact if_neg fun hspecial => hne hspecial rfl
  | cons n rest =>
    rw [UrlPath.text_cons, pathAfterAuthority, if_pos (by simp [isSlash])]
    exact segmentsOn_text h.kept fun hfile m more heq => h.start hfile n m more (heq ▸ rfl)

/-- What has no slash ends where a path begins. -/
theorem cut_path (isEnd : Char → Bool) (hend : isEnd '/' = true) {before : List Char}
    (h : ∀ c ∈ before, isEnd c = false) (names : List String) :
    (before ++ (UrlPath.segments names).text.toList).takeWhile (fun c => !isEnd c) = before ∧
      (before ++ (UrlPath.segments names).text.toList).dropWhile (fun c => !isEnd c) =
        (UrlPath.segments names).text.toList := by
  have hbefore : ∀ c ∈ before, (!isEnd c) = true := fun c hc => by rw [h c hc]; rfl
  rw [List.takeWhile_append_of_pos hbefore, List.dropWhile_append_of_pos hbefore]
  cases names with
  | nil => exact ⟨List.append_nil before, rfl⟩
  | cons n rest =>
    rw [UrlPath.text_cons, List.takeWhile_cons_of_neg (by simp [hend]),
      List.dropWhile_cons_of_neg (by simp [hend]), List.append_nil]
    exact ⟨rfl, rfl⟩

theorem isSlash_of_notMem {special : Bool} {c : Char} (hslash : c ≠ '/') (hback : c ≠ '\\') :
    isSlash special c = false := by
  simp [isSlash, hslash, hback]

theorem IsAuthorityChar.isSlash {c : Char} (h : IsAuthorityChar c) (special : Bool) :
    isSlash special c = false := by
  have hinner := h.inner
  simp only [List.mem_cons, not_or] at hinner
  exact isSlash_of_notMem hinner.1 hinner.2.1

theorem afterSlashes_text {a : Authority} (ha : IsAuthority domains scheme a) {names : List String}
    (hne : isSpecial scheme = true → names ≠ []) (hnames : AreKept scheme names) :
    afterSlashes domains parts scheme (a.text.toList ++ (UrlPath.segments names).text.toList) =
      .ok (assemble parts scheme (some a) (.segments names)) := by
  obtain ⟨htake, hdrop⟩ := cut_path (isSlash (isSpecial scheme)) rfl
    (fun c hc => (authority_chars ha c hc).isSlash _) names
  simp only [afterSlashes, htake, hdrop, readAuthority_text ha, pathAfterAuthority_text hne hnames]
  rfl

/-- No host of files is a drive. -/
theorem isDrive_host {h : Host} (hhost : IsFileHost domains h) :
    UrlPath.isDrive h.text.toList = false := by
  unfold UrlPath.isDrive
  split
  · rename_i c d htext
    have hstands := hhost.stands
    rw [htext] at hstands
    have hbar : d ≠ '|' := by
      rintro rfl
      exact absurd (hstands.chars '|' (by simp)).inner (by decide)
    rcases hstands.colons with hfree | ⟨inner, hinner, -⟩
    · simp [(hfree d (by simp)).1, hbar]
    · rw [(List.cons.inj hinner).1]
      rfl
  · rfl

theorem fileAfterSlashes_text {h : Host} {names : List String} (hhost : IsFileHost domains h)
    (hdrive : ∀ first ∈ names.head?, UrlPath.isDrive first.toList = true → h = .name "")
    (hne : names ≠ []) (hnames : AreKept "file" names) :
    fileAfterSlashes domains parts (h.text.toList ++ (UrlPath.segments names).text.toList) =
      .ok (assemble parts "file" (some ⟨"", "", h, none⟩) (.segments names)) := by
  have hfree : ∀ c ∈ h.text.toList, isSlash true c = false := by
    intro c hc
    have hinner := (hhost.stands.chars c hc).inner
    simp only [List.mem_cons, not_or] at hinner
    exact isSlash_of_notMem hinner.1 hinner.2.1
  obtain ⟨htake, hdrop⟩ := cut_path (isSlash true) rfl hfree names
  have hpath := pathAfterAuthority_text (fun _ => hne) hnames
  obtain ⟨first, rest, rfl⟩ := List.exists_cons_of_ne_nil hne
  have hsame : (if UrlPath.isDrive first.toList = true then Host.name "" else h) = h := by
    split
    · rename_i hfirst
      exact (hdrive first rfl hfirst).symm
    · rfl
  simp only [fileAfterSlashes, htake, hdrop, isDrive_host hhost, hhost.read, hpath, bind,
    Except.bind, Bool.false_eq_true, if_false, hsame]
  rfl

/-- A dot before a path that begins with two slashes adds nothing. -/
theorem segmentsOn_dot (scheme : String) (s : List Char) :
    segmentsOn scheme [] ('.' :: '/' :: s) = segmentsOn scheme [] s := by
  have hpieces : Text.pieces (isSlash (isSpecial scheme)) ('.' :: '/' :: s) =
      ['.'] :: Text.pieces (isSlash (isSpecial scheme)) s :=
    Text.pieces_append (p := ['.']) (List.forall_mem_singleton.mpr (by simp [isSlash])) rfl
  obtain ⟨p, ps, hp⟩ := List.exists_cons_of_ne_nil
    (Text.pieces_ne_nil (isSlash (isSpecial scheme)) s)
  unfold segmentsOn
  rw [hpieces, hp]
  rfl

/-- An authority in a special scheme is not empty, as its host is not. -/
theorem authority_ne_nil {a : Authority} (h : IsAuthority domains scheme a)
    (hspecial : isSpecial scheme = true) : a.text.toList ≠ [] := by
  intro hnil
  rw [authority_toList, List.append_eq_nil_iff, List.append_eq_nil_iff] at hnil
  have hhost := h.host
  rw [hnil.2.1, readHost, if_pos hspecial, if_pos rfl] at hhost
  cases hhost

theorem ne_file_of_not_special (h : isSpecial scheme = false) : scheme ≠ "file" := by
  rintro rfl
  exact absurd h (by decide)

/-- After one slash comes a path, in a scheme that is not special. -/
theorem withScheme_slash (hspecial : isSpecial scheme = false) (hs : s.head? ≠ some '/') :
    withScheme domains parts none scheme ('/' :: s) =
      .ok (assemble parts scheme none (segmentsOn scheme [] s)) := by
  unfold withScheme
  simp only [if_neg (ne_file_of_not_special hspecial), hspecial, Bool.false_eq_true, if_false]
  split
  · rename_i rest heq
    rw [(List.cons.inj heq).2] at hs
    exact absurd rfl hs
  · rename_i rest hrest heq
    rw [(List.cons.inj heq).2]
  · rename_i hno
    exact absurd rfl (hno s)

/-- Without a slash the path has no structure. -/
theorem withScheme_plain (hspecial : isSpecial scheme = false) (hs : s.head? ≠ some '/') :
    withScheme domains parts none scheme s = .ok (assemble parts scheme none
      (.plain (String.ofList (Percent.encode Percent.isControl s)))) := by
  unfold withScheme
  simp only [if_neg (ne_file_of_not_special hspecial), hspecial, Bool.false_eq_true, if_false]
  split
  · exact absurd rfl hs
  · exact absurd rfl hs
  · rfl

/-- A path that does not begin with two slashes is written as it is. -/
theorem placeText_rooted {n : String} {rest : List String} (h : n = "" → rest = []) :
    placeText none (.segments (n :: rest)) =
      '/' :: (n.toList ++ (UrlPath.segments rest).text.toList) := by
  have hbefore : beforePath ⟨"", none, .segments (n :: rest), none, none⟩ = "" := by
    unfold beforePath
    split
    · rename_i heq
      cases heq
    · rename_i m more heq
      obtain ⟨rfl, rfl⟩ := List.cons.inj (UrlPath.segments.inj heq)
      cases h rfl
    · rfl
  rw [placeText, hbefore, UrlPath.text_cons]
  rfl

/-- **Scheme, authority and path are read back** from what is written between the colon after the
scheme and the query. -/
theorem withScheme_text {authority : Option Authority} {path : UrlPath}
    (h : Placed domains scheme authority path) :
    withScheme domains parts none scheme (placeText authority path) =
      .ok (assemble parts scheme authority path) := by
  cases h with
  | @server a names hfile ha hne hnames =>
    have htext : placeText (some a) (.segments names) =
        '/' :: '/' :: (a.text.toList ++ (UrlPath.segments names).text.toList) := by
      simp [placeText, beforePath]
    have hread : afterSlashes domains parts scheme _ = _ := afterSlashes_text ha hne hnames
    rw [htext, withScheme, if_neg hfile]
    by_cases hspecial : isSpecial scheme = true
    · -- The slashes end where the authority begins.
      have hslashes : ('/' :: '/' :: (a.text.toList ++
          (UrlPath.segments names).text.toList)).takeWhile (isSlash true) = ['/', '/'] := by
        obtain ⟨c, more, hmore⟩ := List.exists_cons_of_ne_nil (authority_ne_nil ha hspecial)
        have hc : isSlash true c = false :=
          (authority_chars ha c (hmore ▸ List.mem_cons_self)).isSlash true
        have hslash : isSlash true '/' = true := rfl
        simp [hmore, hslash, hc]
      simp only [if_pos hspecial, Option.filter_none, hslashes]
      exact hread
    · rw [if_neg hspecial]
      exact hread
  | @file host names hfile hhost hdrive hne hnames =>
    subst hfile
    have htext : placeText (some ⟨"", "", host, none⟩) (.segments names) =
        '/' :: '/' :: (host.text.toList ++ (UrlPath.segments names).text.toList) := by
      simp [placeText, beforePath, Authority.text, Authority.userInfoText, Authority.hasUserInfo]
    rw [htext, withScheme, if_pos rfl]
    exact fileAfterSlashes_text hhost hdrive hne hnames
  | @rooted names hspecial hne hnames =>
    obtain ⟨n, rest, rfl⟩ := List.exists_cons_of_ne_nil hne
    have hread := segmentsOn_text hnames.kept fun heq =>
      absurd heq (ne_file_of_not_special hspecial)
    by_cases hstart : n = "" → rest = []
    · have hhead : (n.toList ++ (UrlPath.segments rest).text.toList).head? ≠ some '/' := by
        intro heq
        by_cases hn : n = ""
        · rw [hn, hstart hn] at heq
          cases heq
        · obtain ⟨d, more, hmore⟩ := List.exists_cons_of_ne_nil
            (fun hnil => hn (String.toList_eq_nil_iff.mp hnil))
          have hd := ((hnames.kept n List.mem_cons_self).plain d (hmore ▸ List.mem_cons_self)).2
          rw [hmore] at heq
          rw [Option.some.inj heq] at hd
          cases hd
      rw [placeText_rooted hstart, withScheme_slash hspecial hhead, hread]
    · rw [Classical.not_imp] at hstart
      obtain ⟨rfl, hrest⟩ := hstart
      obtain ⟨m, more, rfl⟩ := List.exists_cons_of_ne_nil hrest
      have htext : placeText none (.segments ("" :: m :: more)) =
          '/' :: '.' :: '/' :: ("".toList ++ (UrlPath.segments (m :: more)).text.toList) := by
        have hbefore : beforePath ⟨"", none, .segments ("" :: m :: more), none, none⟩ = "/." := rfl
        rw [placeText, hbefore, UrlPath.text_cons]
        simp
      rw [htext, withScheme_slash hspecial (by simp), segmentsOn_dot, hread]
  | @plain text hspecial hslash hs =>
    have htext : placeText none (.plain text) = text.toList := rfl
    rw [htext, withScheme_plain hspecial hslash, Percent.encode_plain fun c hc => (hs c hc).1,
      String.ofList_toList]

/-! ## Characters -/

theorem lt_of_not_control {c : Char} (h : Percent.isControl c = false) (hspace : c ≠ ' ') :
    0x20 < c.toNat := by
  have hne : c.toNat ≠ 0x20 := fun heq => hspace (Char.toNat_inj.mp heq)
  simp only [Percent.isControl, Bool.or_eq_false_iff, decide_eq_false_iff_not] at h
  omega

/-- Queries have no controls, spaces or number signs. -/
theorem of_not_queryEncoded {c : Char} (h : queryEncoded scheme c = false) :
    0x20 < c.toNat ∧ c ≠ '#' := by
  have hquery : Percent.inQuery c = false := by
    unfold queryEncoded at h
    split at h
    · simp only [Percent.inSpecialQuery, Bool.or_eq_false_iff] at h
      exact h.1
    · exact h
  simp only [Percent.inQuery, Bool.or_eq_false_iff, decide_eq_false_iff_not, List.mem_cons,
    not_or] at hquery
  exact ⟨lt_of_not_control hquery.1 hquery.2.1, hquery.2.2.2.1⟩

theorem of_not_inFragment {c : Char} (h : Percent.inFragment c = false) : 0x20 < c.toNat := by
  simp only [Percent.inFragment, Bool.or_eq_false_iff, decide_eq_false_iff_not, List.mem_cons,
    not_or] at h
  exact lt_of_not_control h.1 h.2.1

theorem of_schemeChar {c : Char} (h : isSchemeChar c = true) :
    0x20 < c.toNat ∧ c ≠ '?' ∧ c ≠ '#' :=
  of_toNat_lt (P := fun c => isSchemeChar c = true → 0x20 < c.toNat ∧ c ≠ '?' ∧ c ≠ '#')
    (by decide +kernel) (schemeChar_lt h) h

theorem isBody_segments {names : List String} (h : AreKept scheme names) :
    ∀ c ∈ (UrlPath.segments names).text.toList, IsBody c := by
  intro c hc
  have hpath := UrlPath.plain_text h.kept c hc
  have hne : ∀ d : Char, Percent.inPath d = true → c ≠ d := by
    rintro d hd rfl
    rw [hpath] at hd
    cases hd
  exact ⟨Nat.le_of_lt (lt_of_inPath hpath), hne '?' (by decide), hne '#' (by decide)⟩

theorem IsAuthorityChar.isBody {c : Char} (h : IsAuthorityChar c) : IsBody c := by
  have hinner := h.inner
  simp only [List.mem_cons, List.not_mem_nil, or_false, not_or] at hinner
  exact ⟨Nat.le_of_lt h.visible, hinner.2.2.1, hinner.2.2.2⟩

theorem isBody_placeText {authority : Option Authority} {path : UrlPath}
    (h : Placed domains scheme authority path) : ∀ c ∈ placeText authority path, IsBody c := by
  have hslashes : ∀ c ∈ "//".toList, IsBody c := by
    show ∀ c ∈ ['/', '/'], IsBody c
    exact List.forall_mem_cons.mpr ⟨⟨by decide, by decide⟩,
      List.forall_mem_singleton.mpr ⟨by decide, by decide⟩⟩
  cases h with
  | @server a names hfile ha hne hnames =>
    refine List.forall_mem_append.mpr ⟨?_, isBody_segments hnames⟩
    rw [beforePath, String.toList_append]
    exact List.forall_mem_append.mpr
      ⟨hslashes, fun c hc => (authority_chars ha c hc).isBody⟩
  | @file host names hfile hhost hdrive hne hnames =>
    refine List.forall_mem_append.mpr ⟨?_, isBody_segments hnames⟩
    have htext : (Authority.mk "" "" host none).text = host.text := by
      simp [Authority.text, Authority.userInfoText, Authority.hasUserInfo]
    rw [beforePath, String.toList_append, htext]
    refine List.forall_mem_append.mpr ⟨hslashes, fun c hc => ?_⟩
    obtain ⟨hvisible, hinner⟩ := hhost.stands.chars c hc
    simp only [List.mem_cons, List.not_mem_nil, or_false, not_or] at hinner
    exact ⟨Nat.le_of_lt hvisible, hinner.2.2.1, hinner.2.2.2.1⟩
  | @rooted names hspecial hne hnames =>
    refine List.forall_mem_append.mpr ⟨?_, isBody_segments hnames⟩
    unfold beforePath
    split
    · rename_i heq
      cases heq
    · show ∀ c ∈ ['/', '.'], IsBody c
      exact List.forall_mem_cons.mpr ⟨⟨by decide, by decide⟩,
        List.forall_mem_singleton.mpr ⟨by decide, by decide⟩⟩
    · exact List.forall_mem_nil _
  | @plain text hspecial hslash hs =>
    intro c hc
    obtain ⟨hcontrol, hquery, hfragment⟩ := hs c hc
    simp only [Percent.isControl, Bool.or_eq_false_iff, decide_eq_false_iff_not] at hcontrol
    exact ⟨by omega, hquery, hfragment⟩

/-! ## Whole URLs -/

theorem assemble_eq (h : IsRead domains u) (body : List Char) :
    assemble ⟨body, u.query.map String.toList, u.fragment.map String.toList⟩ u.scheme u.authority
      u.path = u := by
  obtain ⟨scheme, authority, path, query, fragment⟩ := u
  have hquery : (query.map String.toList).map
      (fun q => String.ofList (Percent.encode (queryEncoded scheme) q)) = query := by
    cases query with
    | none => rfl
    | some q =>
      rw [Option.map_some, Option.map_some, Percent.encode_plain (h.query q rfl),
        String.ofList_toList]
  have hfragment : (fragment.map String.toList).map
      (fun f => String.ofList (Percent.encode Percent.inFragment f)) = fragment := by
    cases fragment with
    | none => rfl
    | some f =>
      rw [Option.map_some, Option.map_some, Percent.encode_plain (h.fragment f rfl),
        String.ofList_toList]
  exact congrArg₂ (Url.mk scheme authority path) hquery hfragment

theorem text_toList (u : Url) : u.text.toList =
    u.scheme.toList ++ ':' :: placeText u.authority u.path ++
      ((u.query.map String.toList).map ('?' :: ·)).getD [] ++
        ((u.fragment.map String.toList).map ('#' :: ·)).getD [] := by
  have hquery : ((u.query.map ("?" ++ ·)).getD "").toList =
      ((u.query.map String.toList).map ('?' :: ·)).getD [] := by
    cases u.query <;> simp
  have hfragment : ((u.fragment.map ("#" ++ ·)).getD "").toList =
      ((u.fragment.map String.toList).map ('#' :: ·)).getD [] := by
    cases u.fragment <;> simp
  have hbefore : u.beforePath = beforePath ⟨"", u.authority, u.path, none, none⟩ := rfl
  simp only [text, String.toList_append, hquery, hfragment, hbefore, placeText]
  simp

/-- The last character of a text is visible if what may be at its end is. -/
theorem getLast?_visible {before after : List Char} (hbefore : ∀ c ∈ before.getLast?, 0x20 < c.toNat)
    (hafter : ∀ c ∈ after, 0x20 < c.toNat) : ∀ c ∈ (before ++ after).getLast?, 0x20 < c.toNat := by
  intro c hc
  rw [List.getLast?_append, Option.mem_def, Option.or_eq_some_iff] at hc
  rcases hc with hc | ⟨-, hc⟩
  · exact hafter c (List.mem_of_getLast? hc)
  · exact hbefore c hc

/-- **The written form of a URL is read as that URL**, unless a path without structure ends in
spaces. -/
theorem parse_text (h : IsRead domains u)
    (hlast : ∀ c ∈ (placeText u.authority u.path).getLast?, 0x20 < c.toNat) :
    parse domains u.text = .ok u := by
  have hscheme : ∀ c ∈ u.scheme.toList, 0x20 < c.toNat ∧ c ≠ '?' ∧ c ≠ '#' := fun c hc =>
    of_schemeChar (h.scheme.chars c hc).1
  have hplace := isBody_placeText h.placed
  have hquery : ∀ c ∈ ((u.query.map String.toList).map ('?' :: ·)).getD [], 0x20 < c.toNat := by
    cases hq : u.query with
    | none => exact List.forall_mem_nil _
    | some q => exact List.forall_mem_cons.mpr ⟨by decide, fun c hc =>
        (of_not_queryEncoded (h.query q hq c hc)).1⟩
  have hfragment : ∀ c ∈ ((u.fragment.map String.toList).map ('#' :: ·)).getD [],
      0x20 < c.toNat := by
    cases hf : u.fragment with
    | none => exact List.forall_mem_nil _
    | some f => exact List.forall_mem_cons.mpr ⟨by decide, fun c hc =>
        of_not_inFragment (h.fragment f hf c hc)⟩
  have hclean : clean u.text.toList = u.text.toList := by
    rw [text_toList]
    refine clean_eq ?_ ?_ ?_
    · simp only [List.forall_mem_append, List.forall_mem_cons]
      refine ⟨⟨⟨fun c hc => Nat.le_of_lt (hscheme c hc).1, by decide, fun c hc => (hplace c hc).1⟩,
        fun c hc => Nat.le_of_lt (hquery c hc)⟩, fun c hc => Nat.le_of_lt (hfragment c hc)⟩
    · obtain ⟨c, rest, hbegin, -⟩ := h.scheme.begins
      rw [hbegin] at hscheme ⊢
      rintro d ⟨⟩
      exact (hscheme c List.mem_cons_self).1
    · refine getLast?_visible (getLast?_visible ?_ hquery) hfragment
      -- The colon is the last character if nothing follows it.
      intro c hc
      cases hplace : placeText u.authority u.path with
      | nil =>
        rw [hplace, List.getLast?_concat] at hc
        rw [← Option.some.inj hc]
        decide
      | cons d rest =>
        rw [hplace] at hc hlast
        rw [List.getLast?_append, List.getLast?_cons_cons, Option.mem_def,
          Option.or_eq_some_iff] at hc
        rcases hc with hc | ⟨hnone, -⟩
        · exact hlast c hc
        · simp at hnone
  have hparts : Parts.of u.text.toList = ⟨u.scheme.toList ++ ':' :: placeText u.authority u.path,
      u.query.map String.toList, u.fragment.map String.toList⟩ := by
    rw [text_toList]
    refine parts_text ?_ ?_
    · refine List.forall_mem_append.mpr ⟨fun c hc => (hscheme c hc).2,
        List.forall_mem_cons.mpr ⟨by decide, fun c hc => (hplace c hc).2⟩⟩
    · intro q' hq' c hc
      obtain ⟨q, hq, rfl⟩ := Option.map_eq_some_iff.mp hq'
      exact (of_not_queryEncoded (h.query q hq c hc)).2
  unfold parse resolve
  rw [hclean, hparts]
  simp only [scheme?_text h.scheme]
  rw [withScheme_text h.placed, assemble_eq h]

/-! ## Completion by a slash -/

theorem AreKept.closed {names : List String} (h : AreKept scheme names)
    (hlast : ¬ names.getLast? = some "") : AreKept scheme (names ++ [""]) where
  kept := UrlPath.isKept_append h.kept (UrlPath.isName_empty.isKept _)
  start := by
    intro hfile n m rest heq
    match names with
    | [] => cases heq
    | [n'] =>
      rintro rfl
      rw [(List.cons.inj heq).1] at hlast
      exact hlast rfl
    | n' :: m' :: rest' =>
      rw [← (List.cons.inj heq).1]
      exact h.start hfile n' m' rest' rfl

/-- A path that is completed by a slash is where it was. -/
theorem Placed.closed {authority : Option Authority} {path : UrlPath}
    (h : Placed domains scheme authority path) : Placed domains scheme authority path.closed := by
  cases h with
  | @server a names hfile ha hne hnames =>
    rw [UrlPath.closed]
    split
    · exact .server hfile ha hne hnames
    · rename_i hlast
      exact .server hfile ha (fun _ => by simp) (hnames.closed hlast)
  | @file host names hfile hhost hdrive hne hnames =>
    rw [UrlPath.closed]
    split
    · exact .file hfile hhost hdrive hne hnames
    · rename_i hlast
      obtain ⟨first, rest, rfl⟩ := List.exists_cons_of_ne_nil hne
      exact .file hfile hhost hdrive (by simp) (hnames.closed hlast)
  | @rooted names hspecial hne hnames =>
    rw [UrlPath.closed]
    split
    · exact .rooted hspecial hne hnames
    · rename_i hlast
      exact .rooted hspecial (by simp) (hnames.closed hlast)
  | @plain text hspecial hslash hs =>
    rw [UrlPath.closed]
    split
    · exact .plain hspecial hslash hs
    · split
      · refine .plain hspecial (by decide) ?_
        show ∀ c ∈ ['%', '2', 'F'], Percent.isControl c = false ∧ c ≠ '?' ∧ c ≠ '#'
        simp only [List.forall_mem_cons, List.not_mem_nil, false_imp_iff, implies_true]
        decide
      · rename_i hempty
        obtain ⟨c, more, hmore⟩ := List.exists_cons_of_ne_nil
          (fun hnil => hempty (String.toList_eq_nil_iff.mp hnil))
        refine .plain hspecial ?_ ?_
        · rw [hmore] at hslash
          rwa [String.toList_append, hmore]
        · rw [String.toList_append]
          refine List.forall_mem_append.mpr ⟨hs, ?_⟩
          show ∀ c ∈ ['/'], Percent.isControl c = false ∧ c ≠ '?' ∧ c ≠ '#'
          exact List.forall_mem_singleton.mpr (by decide)

theorem IsRead.closed (h : IsRead domains u) : IsRead domains u.closed :=
  ⟨h.scheme, h.placed.closed, h.query, h.fragment⟩

/-- A path that is completed by a slash ends in one, or in the code of one. -/
theorem closed_getLast? (path : UrlPath) :
    path.closed.text.toList.getLast? = some '/' ∨ path.closed.text.toList.getLast? = some 'F' := by
  have hslash (names : List String) :
      (UrlPath.segments (names ++ [""])).text.toList.getLast? = some '/' := by
    simp [UrlPath.text, String.join]
  cases path with
  | plain s =>
    rw [UrlPath.closed]
    split
    · rename_i hlast
      exact .inl hlast
    · split
      · exact .inr rfl
      · left
        rw [UrlPath.text, String.toList_append]
        exact List.getLast?_concat
  | segments names =>
    left
    rw [UrlPath.closed]
    split
    · rename_i hlast
      obtain ⟨before, rfl⟩ := List.getLast?_eq_some_iff.mp hlast
      exact hslash before
    · exact hslash names

/-- **A URL that is completed by a slash is read from its written form.** -/
theorem parse_closed (h : IsRead domains u) : parse domains u.closed.text = .ok u.closed := by
  refine parse_text h.closed ?_
  intro c hc
  change c ∈ ((beforePath ⟨"", u.authority, u.path.closed, none, none⟩).toList ++
    u.path.closed.text.toList).getLast? at hc
  rw [List.getLast?_append] at hc
  rcases closed_getLast? u.path with hlast | hlast
  · rw [hlast] at hc
    rw [← Option.some.inj hc]
    decide
  · rw [hlast] at hc
    rw [← Option.some.inj hc]
    decide

end Url

end RegionClient
