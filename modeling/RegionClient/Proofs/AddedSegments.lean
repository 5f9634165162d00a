import RegionClient.Proofs.EncodedTexts
import RegionClient.Proofs.Segments

set_option autoImplicit false

/-! # Segments that are added

In a special scheme, a text is added to a path as one segment that stands for it, but for two
peculiarities: a text of one or two dots adds nothing, and tabs and line breaks are left out
(`UrlPath.IsSegment`). The written form of a path leads to the same path again, unless it begins
with two slashes, for then its first name is taken for a server.

Main statements: `UrlPath.push_added`, `UrlPath.Added.eq_of_isSegment`, `UrlPath.Added.isSegment`,
`Url.join_names`, `Url.join_slashes`.
-/

namespace RegionClient

namespace UrlPath

/-! ## Dots -/

/-- What a character is whose small form is known: that one, or its capital. -/
theorem of_toLower {c d : Char} (h : c.toLower = d) :
    c = d ∨ (65 ≤ c.toNat ∧ c.toNat ≤ 90 ∧ c.toNat + 32 = d.toNat) := by
  unfold Char.toLower at h
  split at h
  · rename_i hupper
    have hlow : 65 ≤ c.toNat := hupper.1
    have hhigh : c.toNat ≤ 90 := hupper.2
    refine .inr ⟨hlow, hhigh, ?_⟩
    calc c.toNat + 32
        = (c.toNat + 32) % 2 ^ 32 := by omega
      _ = (c.val + ('a'.val - 'A'.val)).toNat := by rw [UInt32.toNat_add]; rfl
      _ = d.toNat := congrArg Char.toNat h
  · exact .inl h

theorem eq_of_toLower {c d : Char} (h : c.toLower = d) (hd : d.toNat < 97 ∨ 122 < d.toNat) :
    c = d := by
  rcases of_toLower h with hc | hc
  · exact hc
  · omega

/-- A dot is written as such, or encoded with a small or a capital digit. -/
theorem isDot_cases {s : List Char} (h : isDot s = true) :
    s = ['.'] ∨ s = ['%', '2', 'e'] ∨ s = ['%', '2', 'E'] := by
  simp only [isDot, List.mem_cons, List.not_mem_nil, or_false, decide_eq_true_eq] at h
  rcases h with h | h
  · obtain ⟨c, rest, rfl, hc, hrest⟩ := List.map_eq_cons_iff.mp h
    obtain rfl := List.map_eq_nil_iff.mp hrest
    rw [eq_of_toLower hc (by decide)]
    exact .inl rfl
  · obtain ⟨c, rest, rfl, hc, hrest⟩ := List.map_eq_cons_iff.mp h
    obtain ⟨c', rest', rfl, hc', hrest'⟩ := List.map_eq_cons_iff.mp hrest
    obtain ⟨c'', rest'', rfl, hc'', hrest''⟩ := List.map_eq_cons_iff.mp hrest'
    obtain rfl := List.map_eq_nil_iff.mp hrest''
    rw [eq_of_toLower hc (by decide), eq_of_toLower hc' (by decide)]
    rcases of_toLower hc'' with rfl | ⟨-, -, hnat⟩
    · exact .inr (.inl rfl)
    · have hcapital : c''.toNat = 'E'.toNat := Nat.add_right_cancel hnat
      rw [Char.toNat_inj.mp hcapital]
      exact .inr (.inr rfl)

theorem isDoubleDot_cases {s : List Char} (h : isDoubleDot s = true) :
    ∃ d d', isDot d = true ∧ isDot d' = true ∧ s = d ++ d' := by
  have happend {lower lower' : List Char} (hs : s.map Char.toLower = lower ++ lower')
      (hlower : lower ∈ [['.'], ['%', '2', 'e']]) (hlower' : lower' ∈ [['.'], ['%', '2', 'e']]) :
      ∃ d d', isDot d = true ∧ isDot d' = true ∧ s = d ++ d' := by
    obtain ⟨d, d', rfl, rfl, rfl⟩ := List.map_eq_append_iff.mp hs
    exact ⟨d, d', decide_eq_true hlower, decide_eq_true hlower', rfl⟩
  have hdot : ['.'] ∈ [['.'], ['%', '2', 'e']] := List.mem_cons_self
  have hcode : ['%', '2', 'e'] ∈ [['.'], ['%', '2', 'e']] :=
    List.mem_cons_of_mem _ List.mem_cons_self
  simp only [isDoubleDot, List.mem_cons, List.not_mem_nil, or_false, decide_eq_true_eq] at h
  rcases h with h | h | h | h
  · exact happend h hdot hdot
  · exact happend h hdot hcode
  · exact happend h hcode hdot
  · exact happend h hcode hcode

/-- However a dot is written, it stands for a dot. -/
theorem decode_dot {s : List Char} (h : isDot s = true) (rest : List Char) :
    Percent.decode ((s ++ rest).flatMap String.utf8EncodeChar) =
      0x2E :: Percent.decode (rest.flatMap String.utf8EncodeChar) := by
  rcases isDot_cases h with rfl | rfl | rfl
  · exact Percent.decode_byte (by decide) _
  · rfl
  · rfl

variable {s : List Char}

/-- A text that is encoded as a dot is one. -/
theorem eq_of_isDot_encode (h : isDot (Percent.encode (Percent.inSegment true) s) = true) :
    s = ['.'] := by
  have hdecode := decode_dot h []
  rw [List.append_nil, Percent.decode_encode fun _ => Percent.of_not_inSegment] at hdecode
  have hbytes : s.flatMap String.utf8EncodeChar = ['.'].flatMap String.utf8EncodeChar := hdecode
  exact Utf8.encodeChars_inj hbytes

/-- A text that is encoded as two dots is those. -/
theorem eq_of_isDoubleDot_encode
    (h : isDoubleDot (Percent.encode (Percent.inSegment true) s) = true) :
    s = ['.', '.'] := by
  -- Both sides of the equation are decoded: the text from its encoding, each dot from its form.
  obtain ⟨d, d', hd, hd', heq⟩ := isDoubleDot_cases h
  have hdecode := congrArg (fun e => Percent.decode (e.flatMap String.utf8EncodeChar)) heq
  have hlast := decode_dot hd' []
  simp only [Percent.decode_encode fun _ => Percent.of_not_inSegment, decode_dot hd] at hdecode
  rw [List.append_nil] at hlast
  rw [hlast] at hdecode
  have hbytes : s.flatMap String.utf8EncodeChar =
      ['.', '.'].flatMap String.utf8EncodeChar := hdecode
  exact Utf8.encodeChars_inj hbytes

/-! ## Adding -/

/-- The characters of a text that count where it is added: all but tabs and line breaks. -/
def kept (name : String) : List Char :=
  name.toList.filter fun c => !(c == '\t' || c == '\n' || c == '\r')

/-- The segment that stands for a text. -/
def segmentFor (s : List Char) : String :=
  String.ofList (Percent.encode (Percent.inSegment true) s)

/-- **A text that one segment can stand for where it is added**: neither dots, which add nothing,
nor a text with tabs or line breaks, which are left out. -/
structure IsSegment (name : String) : Prop where
  notDot : name ≠ "."
  notDoubleDot : name ≠ ".."
  unbroken : ∀ c ∈ name.toList, c ≠ '\t' ∧ c ≠ '\n' ∧ c ≠ '\r'

theorem kept_eq_iff (name : String) :
    kept name = name.toList ↔ ∀ c ∈ name.toList, c ≠ '\t' ∧ c ≠ '\n' ∧ c ≠ '\r' := by
  rw [kept, List.filter_eq_self]
  refine forall₂_congr fun c _ => ?_
  simp [and_assoc]

theorem decodeText?_segmentFor (s : List Char) :
    Percent.decodeText? (segmentFor s) = some (String.ofList s) := by
  have hkept (c : Char) (hc : Percent.inSegment true c = false) : c.toNat < 128 ∧ c ≠ '%' :=
    Percent.of_not_inSegment hc
  have h := Percent.decodeText?_encode hkept (String.ofList s)
  rwa [String.toList_ofList] at h

theorem plain_segmentFor (s : List Char) : ∀ c ∈ (segmentFor s).toList, IsPlain c := by
  intro c hc
  rw [segmentFor, String.toList_ofList] at hc
  rcases Percent.mem_encode hc with ⟨-, hplain⟩ | rfl | ⟨n, hn, rfl⟩
  · simp only [Percent.inSegment, Bool.or_eq_false_iff, decide_eq_false_iff_not, List.mem_cons,
      not_or] at hplain
    obtain ⟨⟨hpath, hslash, -⟩, hback⟩ := hplain
    exact ⟨hpath, by simpa [Url.isSlash, hslash] using hback⟩
  · decide
  · exact isPlain_hexDigit n hn

/-- **What becomes of names to which a text is added.** -/
inductive Added (names : List String) (name : String) : List String → Prop where
  /-- Dots add nothing. -/
  | nothing (h : name = "." ∨ name = "..") : Added names name names
  /-- Two dots that are hidden by what is left out lead up. -/
  | up (h : kept name = ['.', '.']) : Added names name (names.dropLast ++ [""])
  /-- One dot that is hidden so adds an empty name. -/
  | empty (h : kept name = ['.']) : Added names name (names ++ [""])
  /-- Any other text adds the segment for what is kept of it. -/
  | segment (h : IsName (segmentFor (kept name))) :
      Added names name (names ++ [segmentFor (kept name)])

theorem push_added {names : List String} (hnames : names ≠ [""]) (name : String) :
    Added names name (push true names name) := by
  have hparent : parent ⟨false, Percent.inSegment true⟩ names = names.dropLast := by
    unfold parent
    split
    · rfl
    · rfl
  have hbar : '|' ∉ Percent.encode (Percent.inSegment true) (kept name) := by
    refine bar_notMem fun c hc => (plain_segmentFor (kept name) c ?_).1
    rwa [segmentFor, String.toList_ofList]
  rw [push]
  by_cases hdots : name = "." ∨ name = ".."
  · rw [if_pos hdots]
    exact .nothing hdots
  -- What is encoded as dots was dots before, but the name may have been more than what is kept.
  · rw [if_neg hdots, if_neg hnames, ← kept, walk, List.map_singleton, walkEncoded, hparent,
      segment_eq hbar]
    by_cases hdouble : isDoubleDot (Percent.encode (Percent.inSegment true) (kept name)) = true
    · rw [if_pos hdouble]
      exact .up (eq_of_isDoubleDot_encode hdouble)
    · rw [if_neg hdouble]
      by_cases hdot : isDot (Percent.encode (Percent.inSegment true) (kept name)) = true
      · rw [if_pos hdot]
        exact .empty (eq_of_isDot_encode hdot)
      · rw [if_neg hdot]
        refine .segment ⟨plain_segmentFor _, ?_, ?_⟩
        · rw [segmentFor, String.toList_ofList, Bool.eq_false_iff]
          exact hdot
        · rw [segmentFor, String.toList_ofList, Bool.eq_false_iff]
          exact hdouble

/-- What is added to names is one. -/
theorem Added.names {names pushed : List String} {name : String} (h : Added names name pushed)
    (hnames : ∀ n ∈ names, IsName n) : ∀ n ∈ pushed, IsName n := by
  cases h with
  | nothing => exact hnames
  | up =>
      have hparent : ∀ n ∈ names.dropLast, IsName n := fun n hn =>
        hnames n ((List.dropLast_sublist names).subset hn)
      exact isName_append hparent isName_empty
  | empty => exact isName_append hnames isName_empty
  | segment hname => exact isName_append hnames hname

theorem Added.length_le {names pushed : List String} {name : String} (h : Added names name pushed) :
    pushed.length ≤ names.length + 1 := by
  cases h with
  | nothing => omega
  | up => simp
  | empty => simp
  | segment => simp

/-- **A text that one segment can stand for is added as that segment.** -/
theorem Added.eq_of_isSegment {names pushed : List String} {name : String}
    (h : Added names name pushed) (hname : IsSegment name) :
    pushed = names ++ [segmentFor name.toList] ∧ IsName (segmentFor name.toList) := by
  have hkept := (kept_eq_iff name).mpr hname.unbroken
  have hdots {dots : List Char} (heq : kept name = dots) : name = String.ofList dots := by
    rw [← heq, hkept, String.ofList_toList]
  cases h with
  | nothing hdotted => exact absurd hdotted (not_or.mpr ⟨hname.notDot, hname.notDoubleDot⟩)
  | up hdotted => exact absurd (hdots hdotted) hname.notDoubleDot
  | empty hdotted => exact absurd (hdots hdotted) hname.notDot
  | segment hsegment =>
      rw [hkept] at hsegment ⊢
      exact ⟨rfl, hsegment⟩

/-- **No other text is added as one segment that stands for it.** -/
theorem Added.isSegment {names pushed : List String} {name segment : String}
    (h : Added names name pushed) (hpushed : pushed = names ++ [segment])
    (hdecode : Percent.decodeText? segment = some name) (hne : name ≠ "") : IsSegment name := by
  -- An empty segment stands for an empty text only.
  have hempty {old : List String} (heq : old ++ [""] = names ++ [segment]) : False := by
    have hsegment : "" = segment := (List.cons.inj (List.append_inj_right' heq rfl)).1
    have hnil : Percent.decodeText? "" = some "" := decodeText?_segmentFor []
    rw [← hsegment, hnil] at hdecode
    exact hne (Option.some.inj hdecode).symm
  cases h with
  | nothing =>
      have hlength := congrArg List.length hpushed
      simp at hlength
  | up => exact (hempty hpushed).elim
  | empty => exact (hempty hpushed).elim
  | segment hname =>
      obtain rfl := (List.cons.inj (List.append_cancel_left hpushed)).1
      have hkept : String.ofList (kept name) = name :=
        Option.some.inj ((decodeText?_segmentFor _).symm.trans hdecode)
      have hlist := congrArg String.toList hkept
      rw [String.toList_ofList] at hlist
      rw [hlist] at hname
      refine ⟨?_, ?_, (kept_eq_iff name).mp hlist⟩
      · rintro rfl
        exact absurd hname.notDot (by decide)
      · rintro rfl
        exact absurd hname.notDoubleDot (by decide)

/-- An empty text adds an empty name, which is a slash at the end. -/
theorem push_empty {names : List String} (hnames : names ≠ [""]) :
    push true names "" = names ++ [""] :=
  ((push_added hnames "").eq_of_isSegment ⟨by decide, by decide, fun c hc => nomatch hc⟩).1

/-! ## Written paths -/

theorem plain_text {special : Bool} {names : List String} (h : ∀ n ∈ names, IsKept special n) :
    ∀ c ∈ (segments names).text.toList, Percent.inPath c = false := by
  induction names with
  | nil => exact fun c hc => nomatch hc
  | cons n rest ih =>
      intro c hc
      rw [text_cons, List.mem_cons, List.mem_append] at hc
      rcases hc with rfl | hc | hc
      · rfl
      · exact ((h n List.mem_cons_self).plain c hc).1
      · exact ih (fun m hm => h m (List.mem_cons_of_mem n hm)) c hc

/-- The written form of names, without the first slash, is cut into those names. -/
theorem pieces_text {special : Bool} {n : String} {rest : List String}
    (h : ∀ m ∈ n :: rest, IsKept special m) :
    Text.pieces (Url.isSlash special) (n.toList ++ (segments rest).text.toList) =
      (n :: rest).map String.toList := by
  have hplain {m : String} (hm : m ∈ n :: rest) : ∀ c ∈ m.toList, Url.isSlash special c = false :=
    fun c hc => ((h m hm).plain c hc).2
  induction rest generalizing n with
  | nil =>
      rw [show (segments []).text.toList = [] from rfl, List.append_nil,
        Text.pieces_of_no_separator (hplain List.mem_cons_self)]
      rfl
  | cons m rest ih =>
      have htail : ∀ m' ∈ m :: rest, IsKept special m' :=
        fun m' hm => h m' (List.mem_cons_of_mem n hm)
      have hslash : Url.isSlash special '/' = true := rfl
      rw [text_cons, Text.pieces_append (hplain List.mem_cons_self) hslash,
        ih htail fun hm => hplain (List.mem_cons_of_mem n hm)]
      rfl

end UrlPath

/-! ## Reading a written path again -/

namespace Url

variable {domains : DomainForm} {base url : Url} {before : List String}

/-- **The written form of segments, without the first slash, is read as those segments**, unless it
begins as none of a file does. -/
theorem segmentsOn_text {scheme : String} {n : String} {rest : List String}
    (h : ∀ m ∈ n :: rest, UrlPath.IsKept (isSpecial scheme) m)
    (hstart : scheme = "file" → ∀ m more, rest = m :: more → n ≠ "") :
    segmentsOn scheme [] (n.toList ++ (UrlPath.segments rest).text.toList) =
      .segments (n :: rest) := by
  have hmem {s : List Char} (hs : s ∈ (n :: rest).map String.toList) :
      ∃ m, UrlPath.IsKept (isSpecial scheme) m ∧ m.toList = s := by
    obtain ⟨m, hm, rfl⟩ := List.mem_map.mp hs
    exact ⟨m, h m hm, rfl⟩
  have hsame : [] ++ ((n :: rest).map String.toList).map String.ofList = n :: rest := by simp
  rw [segmentsOn_eq (UrlPath.pieces_text h), hsame]
  · split
    · rename_i hfile
      rw [UrlPath.withoutLeadingEmpty_eq]
      intro n' m more heq
      obtain ⟨rfl, hrest⟩ := List.cons.inj heq
      exact hstart hfile m more hrest
    · rfl
  · intro s hs c hc
    obtain ⟨m, hm, rfl⟩ := hmem hs
    exact (hm.plain c hc).1
  · intro s hs
    obtain ⟨m, hm, rfl⟩ := hmem hs
    exact ⟨hm.notDot, hm.notDoubleDot⟩

/-- The written form of names has no scheme, so it is read relative to the address. -/
theorem join_text (hpath : base.path = .segments before) (hfile : base.scheme ≠ "file") {n : String}
    {rest : List String} (h : ∀ m ∈ n :: rest, UrlPath.IsName m) {s : List Char}
    (hs : s = '/' :: (n.toList ++ (UrlPath.segments rest).text.toList)) :
    base.join domains (UrlPath.segments (n :: rest)).text =
      relative domains ⟨s, none, none⟩ base before s := by
  have htext : (UrlPath.segments (n :: rest)).text.toList = s := by rw [UrlPath.text_cons, hs]
  have hne : s ≠ [] := by
    rw [hs]
    exact List.cons_ne_nil _ _
  obtain ⟨more, query, fragment, hparts, hall⟩ :=
    of_clean_append hne (htext ▸ UrlPath.plain_text fun m hm => (h m hm).isKept true) []
  obtain ⟨rfl, rfl, rfl⟩ := hall rfl
  have hscheme : scheme? s = none := by
    rw [hs]
    rfl
  rw [List.append_nil] at hparts
  unfold join resolve
  rw [htext, hparts]
  simp only [hscheme, withoutScheme, hpath, if_neg hfile]

/-- **Names of which the first is not empty are read beneath the server of the address.** -/
theorem join_names (hpath : base.path = .segments before) (hfile : base.scheme ≠ "file")
    {n : String} {rest : List String} (hn : n ≠ "") (h : ∀ m ∈ n :: rest, UrlPath.IsName m) :
    base.join domains (UrlPath.segments (n :: rest)).text =
      .ok ⟨base.scheme, base.authority, .segments (n :: rest), none, none⟩ := by
  obtain ⟨d, more, hmore⟩ := List.exists_cons_of_ne_nil
    (fun hnil => hn (String.toList_eq_nil_iff.mp hnil))
  have hd : isSlash true d = false := by
    refine ((h n List.mem_cons_self).plain d ?_).2
    rw [hmore]
    exact List.mem_cons_self
  have hno : ¬(d = '/' ∨ d = '\\') := by
    rintro (rfl | rfl)
    · cases hd
    · cases hd
  have hread := segmentsOn_text (fun m hm => (h m hm).isKept (isSpecial base.scheme))
    fun heq => absurd heq hfile
  rw [join_text hpath hfile h rfl]
  rw [hmore, List.cons_append] at hread ⊢
  rw [relative, if_pos (.inl rfl)]
  simp only [if_neg hno, hread]
  rfl

/-- **Names of which the first is empty are read without the first two**, if there are more, as
two slashes begin an authority. -/
theorem join_slashes (hpath : base.path = .segments before) (hfile : base.scheme ≠ "file")
    {n n' : String} {rest : List String} (h : ∀ m ∈ "" :: n :: n' :: rest, UrlPath.IsName m)
    (hjoin : base.join domains (UrlPath.segments ("" :: n :: n' :: rest)).text = .ok url) :
    url.path = .segments (n' :: rest) := by
  have hn := h n (List.mem_cons_of_mem _ List.mem_cons_self)
  have hrest : ∀ m ∈ n' :: rest, UrlPath.IsName m := fun m hm =>
    h m (List.mem_cons_of_mem _ (List.mem_cons_of_mem _ hm))
  have hslashes (s : List Char) (parts : Parts) :
      relative domains parts base before ('/' :: ("".toList ++ '/' :: s)) =
        afterSlashes domains parts base.scheme s := rfl
  -- The authority ends where the second name does, as that has no slash.
  have hdrop : ((n.toList ++ (UrlPath.segments (n' :: rest)).text.toList).dropWhile
      fun c => !isSlash (isSpecial base.scheme) c) =
        '/' :: (n'.toList ++ (UrlPath.segments rest).text.toList) := by
    rw [List.dropWhile_append_of_pos, UrlPath.text_cons]
    · exact List.dropWhile_cons_of_neg (by simp [isSlash])
    · intro c hc
      rw [UrlPath.isSlash_of_isPlain (hn.plain c hc)]
      rfl
  rw [join_text hpath hfile h rfl, UrlPath.text_cons, hslashes] at hjoin
  obtain ⟨a, -, rfl⟩ := afterSlashes_eq_ok hjoin
  show pathAfterAuthority base.scheme _ = _
  rw [hdrop, pathAfterAuthority, if_pos (by simp [isSlash])]
  exact segmentsOn_text (fun m hm => (hrest m hm).isKept (isSpecial base.scheme))
    fun heq => absurd heq hfile

end Url

end RegionClient
