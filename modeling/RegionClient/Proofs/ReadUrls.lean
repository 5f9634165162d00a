import RegionClient.Proofs.HostAddresses

set_option autoImplicit false

/-! # What is read as a URL

A URL that is read is encoded in every part: its scheme is in small letters, its user name, query
and fragment hold what they may hold, its host is read from its own written form, and the segments
of its path are kept as they are (`Url.IsRead`). How scheme, authority and path go together depends
on the kind of the scheme: addresses of files have a local host beneath a drive, a scheme that is not
special may do without an authority, and without a slash it has a path without structure (`Placed`).

Main statement: `Url.parse_isRead`.
-/

namespace RegionClient

namespace Url

/-! ## Parts -/

/-- A scheme in small letters. -/
structure IsScheme (scheme : String) : Prop where
  begins : ∃ c rest, scheme.toList = c :: rest ∧ c.isAlpha = true
  chars : ∀ c ∈ scheme.toList, isSchemeChar c = true ∧ c.toLower = c

/-- What the query in a scheme does not hold. -/
def queryEncoded (scheme : String) : Char → Bool :=
  if isSpecial scheme then Percent.inSpecialQuery else Percent.inQuery

/-- No query encodes percent signs or digits. -/
theorem queryEncoded_sign (scheme : String) : queryEncoded scheme '%' = false ∧
    ∀ n < 16, queryEncoded scheme (Percent.hexDigit n) = false := by
  unfold queryEncoded
  split
  · decide
  · decide

section

variable (domains : DomainForm)

/-- An authority as it is read in a scheme: what it says is encoded and its host is read from its own
written form. Without a host there is nothing else. -/
structure IsAuthority (scheme : String) (a : Authority) : Prop where
  username : ∀ c ∈ a.username.toList, Percent.inUserInfo c = false
  password : ∀ c ∈ a.password.toList, Percent.inUserInfo c = false
  host : readHost domains scheme a.host.text.toList = .ok a.host
  stands : Host.StandsAsHost a.host.text.toList
  alone : a.host.isEmpty = true → a.username = "" ∧ a.password = "" ∧ a.port = none
  port : ∀ p ∈ a.port, p < 65536 ∧ usualPort? scheme ≠ some p

/-- A host of files as it is read. -/
structure IsFileHost (h : Host) : Prop where
  read : fileHost domains h.text.toList = .ok h
  stands : Host.StandsAsHost h.text.toList

/-- Segments as they are read in a scheme. -/
structure AreKept (scheme : String) (names : List String) : Prop where
  kept : ∀ n ∈ names, UrlPath.IsKept (isSpecial scheme) n
  start : scheme = "file" → ∀ n m rest, names = n :: m :: rest → n ≠ ""

/-- **Scheme, authority and path of a URL as it is read.** -/
inductive Placed (scheme : String) : Option Authority → UrlPath → Prop where
  /-- On a server. -/
  | server {a : Authority} {names : List String} (hfile : scheme ≠ "file")
      (ha : IsAuthority domains scheme a) (hne : isSpecial scheme = true → names ≠ [])
      (hnames : AreKept scheme names) : Placed scheme (some a) (.segments names)
  /-- Among files; a drive is local. -/
  | file {h : Host} {names : List String} (hfile : scheme = "file") (hhost : IsFileHost domains h)
      (hdrive : ∀ first ∈ names.head?, UrlPath.isDrive first.toList = true → h = .name "")
      (hne : names ≠ []) (hnames : AreKept scheme names) :
      Placed scheme (some ⟨"", "", h, none⟩) (.segments names)
  /-- Beneath a root that is on no server. -/
  | rooted {names : List String} (hspecial : isSpecial scheme = false) (hne : names ≠ [])
      (hnames : AreKept scheme names) : Placed scheme none (.segments names)
  /-- At a path without structure. -/
  | plain {s : String} (hspecial : isSpecial scheme = false) (hslash : s.toList.head? ≠ some '/')
      (hs : ∀ c ∈ s.toList, Percent.isControl c = false ∧ c ≠ '?' ∧ c ≠ '#') :
      Placed scheme none (.plain s)

/-- **A URL as it is read.** -/
structure IsRead (u : Url) : Prop where
  scheme : IsScheme u.scheme
  placed : Placed domains u.scheme u.authority u.path
  query : ∀ q ∈ u.query, ∀ c ∈ q.toList, queryEncoded u.scheme c = false
  fragment : ∀ f ∈ u.fragment, ∀ c ∈ f.toList, Percent.inFragment c = false

end

/-! ## Reading the parts -/

variable {domains : DomainForm} {scheme : String} {s : List Char} {parts : Parts} {u : Url}

theorem schemeChar_lt {c : Char} (h : isSchemeChar c = true) : c.toNat < 128 := by
  have hbelow (d : Char) (hle : c.val ≤ d.val) (hd : d.toNat < 128) : c.toNat < 128 :=
    Nat.lt_of_le_of_lt (UInt32.le_iff_toNat_le.mp hle) hd
  have hrange (d d' : Char) (h : (decide (d.val ≤ c.val) && decide (c.val ≤ d'.val)) = true)
      (hd : d'.toNat < 128) : c.toNat < 128 :=
    hbelow d' (of_decide_eq_true (Bool.and_eq_true_iff.mp h).2) hd
  have halpha (h : (c.isUpper || c.isLower) = true) : c.toNat < 128 := by
    rcases Bool.or_eq_true_iff.mp h with h | h
    · exact hbelow 'Z' (of_decide_eq_true h).2 (by decide)
    · exact hrange 'a' 'z' h (by decide)
  have halphanum (h : (c.isAlpha || c.isDigit) = true) : c.toNat < 128 := by
    rcases Bool.or_eq_true_iff.mp h with h | h
    · exact halpha h
    · exact hrange '0' '9' h (by decide)
  simp only [isSchemeChar, Bool.or_eq_true, beq_iff_eq] at h
  rcases h with (((h | rfl) | rfl) | rfl)
  · exact halphanum h
  · decide
  · decide
  · decide

/-- The small form of a character of a scheme is one, and stays as it is. -/
theorem toLower_schemeChar {c : Char} (h : isSchemeChar c = true) :
    isSchemeChar c.toLower = true ∧ c.toLower.toLower = c.toLower ∧
      (c.isAlpha = true → c.toLower.isAlpha = true) :=
  of_toNat_lt (P := fun c => isSchemeChar c = true → isSchemeChar c.toLower = true ∧
    c.toLower.toLower = c.toLower ∧ (c.isAlpha = true → c.toLower.isAlpha = true))
    (by decide +kernel) (schemeChar_lt h) h

theorem scheme?_isScheme {rest : List Char} (h : scheme? s = some (scheme, rest)) :
    IsScheme scheme := by
  unfold scheme? at h
  split at h
  · rename_i c tail more hdrop
    split at h
    · rename_i halpha
      obtain ⟨rfl, rfl⟩ := Prod.mk.inj (Option.some.inj h)
      have hc : isSchemeChar c = true := by
        simp [isSchemeChar, Char.isAlphanum, halpha]
      refine ⟨⟨c.toLower, (tail.takeWhile isSchemeChar).map Char.toLower, ?_,
        (toLower_schemeChar hc).2.2 halpha⟩, ?_⟩
      · rw [String.toList_ofList, List.takeWhile_cons_of_pos hc, List.map_cons]
      · rw [String.toList_ofList]
        intro d' hd'
        obtain ⟨d, hd, rfl⟩ := List.mem_map.mp hd'
        have hboth := toLower_schemeChar (List.mem_takeWhile_imp hd)
        exact ⟨hboth.1, hboth.2.1⟩
    · cases h
  · cases h

/-- Where the query and the fragment are cut off, none of their marks is left. -/
theorem of_mem_cutFirst {x c : Char} (h : c ∈ (cutFirst x s).1) : c ∈ s ∧ c ≠ x := by
  induction s with
  | nil => cases h
  | cons d s ih =>
    rw [cutFirst] at h
    split at h
    · cases h
    · rename_i hd
      rcases List.mem_cons.mp h with rfl | h
      · exact ⟨List.mem_cons_self, hd⟩
      · exact ⟨List.mem_cons_of_mem d (ih h).1, (ih h).2⟩

theorem of_mem_body {c : Char} (h : c ∈ (Parts.of s).body) : c ≠ '?' ∧ c ≠ '#' := by
  obtain ⟨hmem, hquery⟩ := of_mem_cutFirst h
  exact ⟨hquery, (of_mem_cutFirst hmem).2⟩

/-- What follows the scheme is part of the text. -/
theorem mem_of_scheme? {rest : List Char} {c : Char} (h : scheme? s = some (scheme, rest))
    (hc : c ∈ rest) : c ∈ s := by
  unfold scheme? at h
  split at h
  · rename_i d tail more hdrop
    split at h
    · obtain ⟨-, rfl⟩ := Prod.mk.inj (Option.some.inj h)
      refine (List.dropWhile_sublist isSchemeChar).subset ?_
      rw [hdrop]
      exact List.mem_cons_of_mem _ hc
    · cases h
  · cases h

theorem hexDigit_ne : ∀ n < 16, Percent.hexDigit n ≠ '?' ∧ Percent.hexDigit n ≠ '#' := by
  decide

theorem readHost_again (hdomains : domains.Lawful) {h : Host}
    (hread : readHost domains scheme s = .ok h) :
    readHost domains scheme h.text.toList = .ok h ∧ Host.StandsAsHost h.text.toList := by
  unfold readHost at hread ⊢
  split at hread
  · rename_i hspecial
    split at hread
    · cases hread
    · obtain ⟨hagain, hne, hstands⟩ := Host.parse_again hdomains hread
      rw [if_pos hspecial, if_neg hne]
      exact ⟨hagain, hstands⟩
  · rename_i hspecial
    rw [if_neg hspecial]
    exact Host.parsePlain_again hread

theorem readPort_bounds {port : Option Nat} (h : readPort scheme s = .ok port) :
    ∀ p ∈ port, p < 65536 ∧ usualPort? scheme ≠ some p := by
  unfold readPort at h
  split at h
  · obtain rfl := Except.ok.inj h
    rintro p ⟨⟩
  · split at h
    · cases h
    · rename_i p hp
      obtain rfl := Except.ok.inj h
      intro q hq
      split at hq
      · cases hq
      · rename_i husual
        obtain rfl := Option.some.inj hq
        exact ⟨of_decide_eq_true (Option.filter_eq_some_iff.mp hp).2, husual⟩

/-- An empty text gives no port. -/
theorem readPort_nil {port : Option Nat} (h : readPort scheme [] = .ok port) : port = none :=
  (Except.ok.inj h).symm

/-- An authority is read from its parts: the text before the last at sign, cut at the first colon,
and the text after it, cut at the first colon outside of brackets. -/
theorem readAuthority_iff {server username hostText : List Char}
    {userInfo password portText : Option (List Char)} {a : Authority}
    (hcut : cutLast '@' s = (userInfo, server))
    (hname : cutFirst ':' (userInfo.getD []) = (username, password))
    (hserver : cutPort false server = (hostText, portText)) :
    readAuthority domains scheme s = .ok a ↔ ∃ host port,
      readHost domains scheme hostText = .ok host ∧
      ¬ (host.isEmpty = true ∧ (userInfo.isSome = true ∨ portText.isSome = true)) ∧
      readPort scheme (portText.getD []) = .ok port ∧
      a = ⟨String.ofList (Percent.encode Percent.inUserInfo username),
        String.ofList (Percent.encode Percent.inUserInfo (password.getD [])), host, port⟩ := by
  simp only [readAuthority, hcut, hname, hserver, bind, Except.bind]
  cases readHost domains scheme hostText with
  | error e => simp
  | ok host =>
    simp only
    by_cases halone : host.isEmpty = true ∧ (userInfo.isSome = true ∨ portText.isSome = true)
    · rw [if_pos halone]
      refine ⟨(fun h => nomatch h), ?_⟩
      rintro ⟨_, _, ⟨⟩, hnot, -⟩
      exact absurd halone hnot
    · rw [if_neg halone]
      cases readPort scheme (portText.getD []) with
      | error e => simp
      | ok port =>
        constructor
        · exact fun h => ⟨host, port, rfl, halone, rfl, (Except.ok.inj h).symm⟩
        · rintro ⟨_, _, ⟨⟩, -, ⟨⟩, rfl⟩
          rfl

theorem readAuthority_isAuthority (hdomains : domains.Lawful) {a : Authority}
    (h : readAuthority domains scheme s = .ok a) :
    IsAuthority domains scheme a := by
  have hencoded (t : List Char) : ∀ c ∈ (String.ofList (Percent.encode Percent.inUserInfo t)).toList,
      Percent.inUserInfo c = false := by
    rw [String.toList_ofList]
    exact Percent.eq_false_of_mem_encode (by decide) (by decide)
  rcases hcut : cutLast '@' s with ⟨userInfo, server⟩
  rcases hname : cutFirst ':' (userInfo.getD []) with ⟨username, password⟩
  rcases hserver : cutPort false server with ⟨hostText, portText⟩
  obtain ⟨host, port, hhost, halone, hport, rfl⟩ := (readAuthority_iff hcut hname hserver).mp h
  obtain ⟨hagain, hstands⟩ := readHost_again hdomains hhost
  refine ⟨hencoded _, hencoded _, hagain, hstands, fun hempty => ?_, readPort_bounds hport⟩
  -- An empty host has neither a user name nor a port beside it.
  simp only [not_and, not_or, Bool.not_eq_true, Option.isSome_eq_false_iff,
    Option.isNone_iff_eq_none] at halone
  obtain ⟨rfl, rfl⟩ := halone hempty
  obtain ⟨rfl, rfl⟩ := Prod.mk.inj hname
  exact ⟨rfl, rfl, readPort_nil hport⟩

theorem isFileHost_empty : IsFileHost domains (.name "") where
  read := rfl
  stands := ⟨List.forall_mem_nil _, .inl (List.forall_mem_nil _)⟩

theorem fileHost_isFileHost (hdomains : domains.Lawful) {h : Host}
    (hread : fileHost domains s = .ok h) : IsFileHost domains h := by
  unfold fileHost at hread
  split at hread
  · obtain rfl := Except.ok.inj hread
    exact isFileHost_empty
  · cases hparse : Host.parse domains s with
    | error e =>
      rw [hparse] at hread
      cases hread
    | ok host =>
      rw [hparse] at hread
      obtain rfl := Except.ok.inj hread
      by_cases hlocal : host = .name "localhost"
      · simp only [if_pos hlocal]
        exact isFileHost_empty
      · simp only [if_neg hlocal]
        obtain ⟨hagain, hne, hstands⟩ := Host.parse_again hdomains hparse
        refine ⟨?_, hstands⟩
        rw [fileHost, if_neg hne, hagain]
        exact congrArg Except.ok (if_neg hlocal)

/-! ## Reading the whole -/

/-- With query and fragment of an address it is a URL that is read. -/
theorem isRead_assemble {authority : Option Authority} {path : UrlPath}
    (hscheme : IsScheme scheme) (hplaced : Placed domains scheme authority path) :
    IsRead domains (assemble parts scheme authority path) where
  scheme := hscheme
  placed := hplaced
  query := by
    intro q hq
    obtain ⟨text, -, rfl⟩ := Option.map_eq_some_iff.mp hq
    rw [String.toList_ofList]
    exact Percent.eq_false_of_mem_encode (queryEncoded_sign scheme).1 (queryEncoded_sign scheme).2
  fragment := by
    intro f hf
    obtain ⟨text, -, rfl⟩ := Option.map_eq_some_iff.mp hf
    rw [String.toList_ofList]
    exact Percent.eq_false_of_mem_encode (by decide) (by decide)

theorem segmentsOn_areKept (scheme : String) (s : List Char) : ∃ names,
    segmentsOn scheme [] s = .segments names ∧ names ≠ [] ∧ AreKept scheme names := by
  obtain ⟨names, hnames, hne, hkept, hstart⟩ := segmentsOn_kept scheme s
  exact ⟨names, hnames, hne, hkept, hstart⟩

theorem afterSlashes_isRead (hdomains : domains.Lawful) (hscheme : IsScheme scheme)
    (hfile : scheme ≠ "file") (h : afterSlashes domains parts scheme s = .ok u) :
    IsRead domains u := by
  obtain ⟨a, ha, rfl⟩ := afterSlashes_eq_ok h
  obtain ⟨names, hnames, hne, hkept, hstart⟩ := pathAfterAuthority_kept scheme
    (s.dropWhile fun c => !isSlash (isSpecial scheme) c)
  rw [hnames]
  exact isRead_assemble hscheme
    (.server hfile (readAuthority_isAuthority hdomains ha) hne ⟨hkept, hstart⟩)

theorem isScheme_file : IsScheme "file" where
  begins := ⟨'f', ['i', 'l', 'e'], rfl, by decide⟩
  chars := by
    simp only [show "file".toList = ['f', 'i', 'l', 'e'] from rfl, List.forall_mem_cons,
      List.not_mem_nil, false_imp_iff, implies_true]
    decide

/-- A path of files on this machine. -/
theorem isRead_local (s : List Char) :
    IsRead domains (assemble parts "file" localFiles.authority (segmentsOn "file" [] s)) := by
  obtain ⟨names, hnames, hne, hkept⟩ := segmentsOn_areKept "file" s
  rw [hnames]
  exact isRead_assemble isScheme_file (.file rfl isFileHost_empty (fun _ _ _ => rfl) hne hkept)

/-- What follows the slashes before an authority is read among files, on a host or on a drive. -/
theorem fileAfterSlashes_isRead (hdomains : domains.Lawful)
    (h : fileAfterSlashes domains parts s = .ok u) : IsRead domains u := by
  have hplaced {host : Host} (hhost : IsFileHost domains host) (rest : List Char) {onDrive : Bool}
      (hdrive : ∀ first names, pathAfterAuthority "file" rest = .segments (first :: names) →
        onDrive = UrlPath.isDrive first.toList) :
      IsRead domains (assemble parts "file"
        (some ⟨"", "", if onDrive = true then .name "" else host, none⟩)
        (pathAfterAuthority "file" rest)) := by
    obtain ⟨names, hnames, hne, hkept, hstart⟩ := pathAfterAuthority_kept "file" rest
    rw [hnames] at hdrive ⊢
    refine isRead_assemble isScheme_file (.file rfl ?_ ?_ (hne (by decide)) ⟨hkept, hstart⟩)
    · split
      · exact isFileHost_empty
      · exact hhost
    · intro first hfirst hisDrive
      obtain ⟨more, rfl⟩ := List.head?_eq_some_iff.mp hfirst
      rw [if_pos ((hdrive first more rfl).trans hisDrive)]
  unfold fileAfterSlashes at h
  simp only [bind, Except.bind] at h
  split at h
  · obtain rfl := Except.ok.inj h
    refine hplaced isFileHost_empty _ fun first names hpath => ?_
    rw [hpath]
  · split at h
    · cases h
    · rename_i host hhost
      obtain rfl := Except.ok.inj h
      refine hplaced (fileHost_isFileHost hdomains hhost) _ fun first names hpath => ?_
      rw [hpath]

theorem file_isRead (hdomains : domains.Lawful) (h : file domains parts none s = .ok u) :
    IsRead domains u := by
  unfold file at h
  simp only at h
  split at h
  · split at h
    · split at h
      · split at h
        · exact fileAfterSlashes_isRead hdomains h
        · split at h
          · obtain rfl := Except.ok.inj h
            exact isRead_local _
          · obtain rfl := Except.ok.inj h
            exact isRead_local _
      · obtain rfl := Except.ok.inj h
        exact isRead_local _
    · split at h
      · obtain rfl := Except.ok.inj h
        exact isRead_local _
      · rename_i c rest hslash hdrive
        have hno : ¬ (c = '/' ∨ c = '\\') := by
          rintro (rfl | rfl)
          · exact hslash rfl
          · exact hslash rfl
        simp only [relative, if_neg hno] at h
        obtain rfl := Except.ok.inj h
        exact isRead_local _
  · simp only [relative] at h
    obtain rfl := Except.ok.inj h
    have hroot : IsRead domains (assemble parts "file" localFiles.authority localFiles.path) :=
      isRead_local []
    split
    · exact hroot
    · refine ⟨hroot.scheme, hroot.placed, ?_, hroot.fragment⟩
      rintro q ⟨⟩

/-- What is encoded begins as the text does, or with a percent sign. -/
theorem head?_encode {encoded : Char → Bool} {c : Char}
    (h : (Percent.encode encoded s).head? = some c) : s.head? = some c ∨ c = '%' := by
  cases s with
  | nil => cases h
  | cons d s =>
    rw [Percent.encode, List.flatMap_cons] at h
    split at h
    · right
      obtain ⟨b, bytes, hbytes⟩ : ∃ b bytes, String.utf8EncodeChar d = b :: bytes := by
        refine List.exists_cons_of_length_pos ?_
        rw [String.length_utf8EncodeChar]
        exact d.utf8Size_pos
      rw [Percent.encodeChar, hbytes] at h
      exact (Option.some.inj h).symm
    · exact .inl h

/-- **Every URL that is read is one as it is read.** -/
theorem parse_isRead (hdomains : domains.Lawful) {input : String}
    (h : parse domains input = .ok u) : IsRead domains u := by
  unfold parse resolve at h
  simp only at h
  cases hscheme : scheme? (Parts.of (clean input.toList)).body with
  | none =>
    simp only [hscheme] at h
    cases h
  | some found =>
    obtain ⟨scheme, rest⟩ := found
    have hname := scheme?_isScheme hscheme
    simp only [hscheme, withScheme, Option.filter_none] at h
    split at h
    · exact file_isRead hdomains h
    · rename_i hfile
      split at h
      · exact afterSlashes_isRead hdomains hname hfile h
      · rename_i hspecial
        rw [Bool.not_eq_true] at hspecial
        split at h
        · exact afterSlashes_isRead hdomains hname hfile h
        · obtain rfl := Except.ok.inj h
          obtain ⟨names, hnames, hne, hkept⟩ := segmentsOn_areKept scheme _
          rw [hnames]
          exact isRead_assemble hname (.rooted hspecial hne hkept)
        · rename_i hslash
          obtain rfl := Except.ok.inj h
          refine isRead_assemble hname (.plain hspecial ?_ ?_)
          · rw [String.toList_ofList]
            intro hhead
            rcases head?_encode hhead with hbegins | hsign
            · obtain ⟨more, rfl⟩ := List.head?_eq_some_iff.mp hbegins
              exact hslash more rfl
            · cases hsign
          · rw [String.toList_ofList]
            intro c hc
            refine ⟨Percent.eq_false_of_mem_encode (by decide) (by decide) c hc, ?_⟩
            rcases Percent.mem_encode hc with ⟨hmem, -⟩ | rfl | ⟨n, hn, rfl⟩
            · exact of_mem_body (mem_of_scheme? hscheme hmem)
            · decide
            · exact hexDigit_ne n hn

end Url

end RegionClient
