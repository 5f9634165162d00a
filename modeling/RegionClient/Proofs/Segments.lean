import RegionClient.Proofs.Joining
import RegionClient.Proofs.Texts

set_option autoImplicit false

/-! # Segments of paths

A path is cut at its slashes, encoded, and walked segment by segment. Segments of plain characters,
which may stand in a path as they are, stay as they are unless they are dots, and every segment that
is read has plain characters only and is no dots (`UrlPath.IsName`).

Main statements: `segmentsOn_plain`, `segmentsOn_kept`, `parse_names`.
-/

namespace RegionClient

/-! ## Encoding -/

namespace Percent

variable {encoded : Char → Bool} {s : List Char} {c : Char}

theorem encode_plain (h : ∀ c ∈ s, encoded c = false) : encode encoded s = s := by
  induction s with
  | nil => rfl
  | cons c s ih =>
      have hc : encoded c = false := h c List.mem_cons_self
      have hrest : encode encoded s = s := ih fun d hd => h d (List.mem_cons_of_mem c hd)
      rw [encode] at hrest ⊢
      simp [hc, hrest]

/-- An encoded text has what need not be encoded, percent signs, and digits. -/
theorem mem_encode (h : c ∈ encode encoded s) :
    (c ∈ s ∧ encoded c = false) ∨ c = '%' ∨ ∃ n < 16, c = hexDigit n := by
  obtain ⟨d, hd, hc⟩ := List.mem_flatMap.mp h
  split at hc
  · obtain ⟨b, -, hb⟩ := List.mem_flatMap.mp hc
    have hlt : b.toNat < 256 := b.toNat_lt
    simp only [encodeByte, List.mem_cons, List.not_mem_nil, or_false] at hb
    -- A percent sign and two digits stand for a byte.
    rcases hb with rfl | rfl | rfl
    · exact .inr (.inl rfl)
    · exact .inr (.inr ⟨_, by omega, rfl⟩)
    · exact .inr (.inr ⟨_, by omega, rfl⟩)
  · rename_i hplain
    obtain rfl := List.mem_singleton.mp hc
    exact .inl ⟨hd, Bool.eq_false_iff.mpr hplain⟩

end Percent

/-! ## Walking -/

namespace UrlPath

/-- A character that may stand in a segment as it is. -/
def IsPlain (c : Char) : Prop :=
  Percent.inPath c = false ∧ Url.isSlash true c = false

instance (c : Char) : Decidable (IsPlain c) :=
  inferInstanceAs (Decidable (_ ∧ _))

theorem isSlash_of_isPlain {special : Bool} {c : Char} (h : IsPlain c) :
    Url.isSlash special c = false := by
  have hboth := h.2
  simp only [Url.isSlash, Bool.or_eq_false_iff, Bool.true_and] at hboth ⊢
  simp [hboth.1, hboth.2]

/-- The digits of encoded bytes may stand in a segment. -/
theorem isPlain_hexDigit : ∀ n < 16, IsPlain (Percent.hexDigit n) := by
  decide

/-- A segment as it is kept: its characters may stand there as they are, and it is no dots. -/
structure IsName (n : String) : Prop where
  plain : ∀ c ∈ n.toList, IsPlain c
  notDot : isDot n.toList = false
  notDoubleDot : isDoubleDot n.toList = false

/-- A segment as it is kept in a scheme, which need not be special. -/
structure IsKept (special : Bool) (n : String) : Prop where
  plain : ∀ c ∈ n.toList, Percent.inPath c = false ∧ Url.isSlash special c = false
  notDot : isDot n.toList = false
  notDoubleDot : isDoubleDot n.toList = false

/-- What is kept in a special scheme is a name. -/
theorem IsKept.isName {n : String} (h : IsKept true n) : IsName n :=
  ⟨h.plain, h.notDot, h.notDoubleDot⟩

/-- A name is kept in every scheme. -/
theorem IsName.isKept {n : String} (h : IsName n) (special : Bool) : IsKept special n where
  plain c hc := ⟨(h.plain c hc).1, isSlash_of_isPlain (h.plain c hc)⟩
  notDot := h.notDot
  notDoubleDot := h.notDoubleDot

/-- The segment that a slash at the end leaves. -/
theorem isName_empty : IsName "" :=
  ⟨nofun, rfl, rfl⟩

theorem isName_append {old : List String} (hold : ∀ n ∈ old, IsName n) {new : String}
    (hnew : IsName new) : ∀ n ∈ old ++ [new], IsName n :=
  List.forall_mem_append.mpr ⟨hold, List.forall_mem_singleton.mpr hnew⟩

theorem isKept_append {special : Bool} {old : List String} (hold : ∀ n ∈ old, IsKept special n)
    {new : String} (hnew : IsKept special new) : ∀ n ∈ old ++ [new], IsKept special n :=
  List.forall_mem_append.mpr ⟨hold, List.forall_mem_singleton.mpr hnew⟩

variable {r : Rules} {names : List String}

/-- A segment without a bar is kept as it is, also if it names a drive. -/
theorem segment_eq {s : List Char} (h : '|' ∉ s) : segment r names s = String.ofList s := by
  unfold segment
  split
  · rename_i c d
    split
    · rename_i hdrive
      simp only [isDrive, Bool.and_eq_true, Bool.or_eq_true, beq_iff_eq] at hdrive
      rcases hdrive.2.2 with rfl | rfl
      · rfl
      · exact absurd (List.mem_cons_of_mem c List.mem_cons_self) h
    · rfl
  · rfl

/-- Segments that are no dots are added as they are. -/
theorem walkEncoded_eq {segments : List (List Char)} (hbar : ∀ s ∈ segments, '|' ∉ s)
    (h : ∀ s ∈ segments, isDot s = false ∧ isDoubleDot s = false) :
    walkEncoded r names segments = names ++ segments.map String.ofList := by
  induction segments generalizing names with
  | nil => simp [walkEncoded]
  | cons s rest ih =>
      obtain ⟨hdot, hdouble⟩ := h s List.mem_cons_self
      have hs := hbar s List.mem_cons_self
      cases rest with
      | nil => simp [walkEncoded, hdot, hdouble, segment_eq hs]
      | cons s' rest =>
          have hrest : walkEncoded r (names ++ [String.ofList s]) (s' :: rest) = _ :=
            ih (fun s'' hs => hbar s'' (List.mem_cons_of_mem s hs))
              fun s'' hs => h s'' (List.mem_cons_of_mem s hs)
          simp [walkEncoded, hdot, hdouble, segment_eq hs, hrest]

theorem parent_subset {n : String} (hn : n ∈ parent r names) : n ∈ names := by
  unfold parent at hn
  split at hn
  · split at hn
    · exact hn
    · cases hn
  · exact (List.dropLast_sublist names).subset hn

theorem bar_notMem {s : List Char} (h : ∀ c ∈ s, Percent.inPath c = false) : '|' ∉ s := by
  intro hmem
  exact absurd (h '|' hmem) (by decide)

/-- Segments of plain characters are kept, if they are no dots. -/
theorem walkEncoded_kept {special : Bool} {segments : List (List Char)}
    (hnames : ∀ n ∈ names, IsKept special n)
    (hsegments : ∀ s ∈ segments, ∀ c ∈ s,
      Percent.inPath c = false ∧ Url.isSlash special c = false) :
    ∀ n ∈ walkEncoded r names segments, IsKept special n := by
  have hempty : IsKept special "" := isName_empty.isKept special
  induction segments generalizing names with
  | nil => exact hnames
  | cons s rest ih =>
      have hs := hsegments s List.mem_cons_self
      have hrest := fun s' hs' => hsegments s' (List.mem_cons_of_mem s hs')
      have hparent : ∀ n ∈ parent r names, IsKept special n := fun n hn =>
        hnames n (parent_subset hn)
      have hsegment (hdouble : ¬ isDoubleDot s = true) (hdot : ¬ isDot s = true) :
          IsKept special (segment r names s) := by
        rw [segment_eq (bar_notMem fun c hc => (hs c hc).1)]
        exact ⟨by simpa using hs, by simpa using hdot, by simpa using hdouble⟩
      -- A segment leads up, adds nothing, or is added; at the end an empty name may be added.
      cases rest with
      | nil =>
          rw [walkEncoded]
          split
          · exact isKept_append hparent hempty
          · rename_i hdouble
            split
            · exact isKept_append hnames hempty
            · rename_i hdot
              exact isKept_append hnames (hsegment hdouble hdot)
      | cons s' rest =>
          rw [walkEncoded]
          split
          · exact ih hparent hrest
          · rename_i hdouble
            split
            · exact ih hnames hrest
            · rename_i hdot
              exact ih (isKept_append hnames (hsegment hdouble hdot)) hrest
          · simp

/-- The last of several segments adds a name. -/
theorem walkEncoded_ne_nil {segments : List (List Char)} (h : segments ≠ []) :
    walkEncoded r names segments ≠ [] := by
  induction segments generalizing names with
  | nil => exact absurd rfl h
  | cons s rest ih =>
      cases rest with
      | nil =>
          rw [walkEncoded]
          split
          · simp
          · split <;> simp
      | cons s' rest =>
          rw [walkEncoded]
          split
          · exact ih (List.cons_ne_nil _ _)
          · split
            · exact ih (List.cons_ne_nil _ _)
            · exact ih (List.cons_ne_nil _ _)
          · simp

theorem withoutLeadingEmpty_subset {n : String} (hn : n ∈ withoutLeadingEmpty names) :
    n ∈ names := by
  fun_induction withoutLeadingEmpty names with
  | case1 next rest ih => exact List.mem_cons_of_mem _ (ih hn)
  | case2 => exact hn

/-- Only a single name may be empty at the beginning of a path of files. -/
theorem withoutLeadingEmpty_ne {n m : String} {rest : List String}
    (h : withoutLeadingEmpty names = n :: m :: rest) : n ≠ "" := by
  fun_induction withoutLeadingEmpty names with
  | case1 next rest' ih => exact ih h
  | case2 names hfirst =>
      rintro rfl
      exact hfirst m rest h

theorem withoutLeadingEmpty_ne_nil (h : names ≠ []) : withoutLeadingEmpty names ≠ [] := by
  fun_induction withoutLeadingEmpty names with
  | case1 next rest ih => exact ih (List.cons_ne_nil _ _)
  | case2 => exact h

theorem withoutLeadingEmpty_eq (h : ∀ n m rest, names = n :: m :: rest → n ≠ "") :
    withoutLeadingEmpty names = names := by
  fun_induction withoutLeadingEmpty names with
  | case1 next rest ih => exact absurd rfl (h "" next rest rfl)
  | case2 => rfl

/-- To add a name leaves the first of several segments as it is, as two dots lead up only once. -/
theorem push_cons (special : Bool) (n n' : String) (rest : List String) (name : String) :
    ∃ m rest', push special (n :: n' :: rest) name = n :: m :: rest' := by
  have hadd : ∀ new : String, ∃ m rest', (n :: n' :: rest) ++ [new] = n :: m :: rest' :=
    fun new => ⟨n', rest ++ [new], rfl⟩
  unfold push
  split
  · exact ⟨n', rest, rfl⟩
  · rw [if_neg (by simp), walk, List.map_singleton, walkEncoded]
    split
    -- Two dots drop the last segment, which is not the first, and leave an empty one.
    · obtain ⟨m, rest', h⟩ : ∃ m rest', (n' :: rest).dropLast ++ [""] = m :: rest' :=
        List.exists_cons_of_ne_nil (List.append_ne_nil_of_right_ne_nil _ (List.cons_ne_nil _ _))
      refine ⟨m, rest', ?_⟩
      rw [parent, List.dropLast_cons_of_ne_nil (List.cons_ne_nil _ _), List.cons_append, h]
      intro only honly
      cases honly
    · split
      · exact hadd ""
      · exact hadd _

theorem text_cons (n : String) (rest : List String) :
    (segments (n :: rest)).text.toList = '/' :: (n.toList ++ (segments rest).text.toList) := by
  simp [text, String.join_cons]

/-- A slash at the end leaves names as they are. -/
theorem closed_names {p : UrlPath} (hp : p = segments names) (h : ∀ n ∈ names, IsName n) :
    ∃ names', p.closed = segments names' ∧ ∀ n ∈ names', IsName n := by
  rw [hp, closed]
  split
  · exact ⟨names, rfl, h⟩
  · exact ⟨names ++ [""], rfl, isName_append h isName_empty⟩

end UrlPath

/-! ## Paths of URLs -/

namespace Url

variable {scheme : String} {names : List String} {s : List Char} {url : Url}

theorem isSpecial_of_web (h : scheme = "http" ∨ scheme = "https") : isSpecial scheme = true := by
  rcases h with rfl | rfl
  · decide
  · decide

theorem ne_file_of_web (h : scheme = "http" ∨ scheme = "https") : scheme ≠ "file" := by
  rcases h with rfl | rfl
  · decide
  · decide

/-- Where there are no drives, the way up drops the last segment. -/
theorem parent_rules (hfile : scheme ≠ "file") :
    UrlPath.parent (rules scheme) names = names.dropLast := by
  have hdrives : (rules scheme).drives = false := beq_false_of_ne hfile
  unfold UrlPath.parent
  split
  · simp [hdrives]
  · rfl

/-- Plain segments that are no dots are added as they are, but for empty ones at the beginning of a
path of files. -/
theorem segmentsOn_eq {segments : List (List Char)}
    (hpieces : Text.pieces (isSlash (isSpecial scheme)) s = segments)
    (hplain : ∀ s ∈ segments, ∀ c ∈ s, Percent.inPath c = false)
    (hdots : ∀ s ∈ segments, UrlPath.isDot s = false ∧ UrlPath.isDoubleDot s = false) :
    segmentsOn scheme names s = .segments (if scheme = "file"
      then UrlPath.withoutLeadingEmpty (names ++ segments.map String.ofList)
      else names ++ segments.map String.ofList) := by
  have hencode : segments.map (Percent.encode (rules scheme).encoded) = segments := by
    refine (List.map_congr_left fun s hs => ?_).trans (List.map_id segments)
    exact Percent.encode_plain (hplain s hs)
  have hbar : ∀ s ∈ segments, '|' ∉ s := fun s hs => UrlPath.bar_notMem (hplain s hs)
  unfold segmentsOn
  simp only [hpieces, UrlPath.walk, hencode, UrlPath.walkEncoded_eq hbar hdots]

/-- **Plain segments that are no dots are added as they are.** -/
theorem segmentsOn_plain (hfile : scheme ≠ "file") {segments : List (List Char)}
    (hpieces : Text.pieces (isSlash (isSpecial scheme)) s = segments)
    (hplain : ∀ s ∈ segments, ∀ c ∈ s, Percent.inPath c = false)
    (hdots : ∀ s ∈ segments, UrlPath.isDot s = false ∧ UrlPath.isDoubleDot s = false) :
    segmentsOn scheme names s = .segments (names ++ segments.map String.ofList) := by
  rw [segmentsOn_eq hpieces hplain hdots, if_neg hfile]

/-- **Every segment that is read is kept**, and there is one at least. Several segments of a file do
not begin with an empty one. -/
theorem segmentsOn_kept (scheme : String) (s : List Char) : ∃ names,
    segmentsOn scheme [] s = .segments names ∧ names ≠ [] ∧
      (∀ n ∈ names, UrlPath.IsKept (isSpecial scheme) n) ∧
      (scheme = "file" → ∀ n m rest, names = n :: m :: rest → n ≠ "") := by
  have hkept : ∀ n ∈ UrlPath.walk (rules scheme) []
      (Text.pieces (isSlash (isSpecial scheme)) s), UrlPath.IsKept (isSpecial scheme) n := by
    refine UrlPath.walkEncoded_kept (List.forall_mem_nil _) ?_
    intro encoded hencoded c hc
    obtain ⟨piece, hpiece, rfl⟩ := List.mem_map.mp hencoded
    rcases Percent.mem_encode hc with ⟨hmem, hplain⟩ | rfl | ⟨n, hn, rfl⟩
    · exact ⟨hplain, (Text.of_mem_pieces hpiece hmem).2⟩
    · exact ⟨by decide, UrlPath.isSlash_of_isPlain (by decide)⟩
    · have hdigit := UrlPath.isPlain_hexDigit n hn
      exact ⟨hdigit.1, UrlPath.isSlash_of_isPlain hdigit⟩
  have hne : UrlPath.walk (rules scheme) []
      (Text.pieces (isSlash (isSpecial scheme)) s) ≠ [] :=
    UrlPath.walkEncoded_ne_nil fun hnil => Text.pieces_ne_nil _ s (List.map_eq_nil_iff.mp hnil)
  unfold segmentsOn
  simp only
  split
  · refine ⟨_, rfl, UrlPath.withoutLeadingEmpty_ne_nil hne, fun n hn => ?_, fun _ n m rest h => ?_⟩
    · exact hkept n (UrlPath.withoutLeadingEmpty_subset hn)
    · exact UrlPath.withoutLeadingEmpty_ne h
  · rename_i hfile
    exact ⟨_, rfl, hne, hkept, fun h => absurd h hfile⟩

/-- The segments of the path after an authority are kept. -/
theorem pathAfterAuthority_kept (scheme : String) (s : List Char) : ∃ names,
    pathAfterAuthority scheme s = .segments names ∧
      (isSpecial scheme = true → names ≠ []) ∧
      (∀ n ∈ names, UrlPath.IsKept (isSpecial scheme) n) ∧
      (scheme = "file" → ∀ n m rest, names = n :: m :: rest → n ≠ "") := by
  unfold pathAfterAuthority
  split
  · by_cases hspecial : isSpecial scheme = true
    · refine ⟨[""], if_pos hspecial, fun _ => List.cons_ne_nil _ _, ?_, ?_⟩
      · exact List.forall_mem_singleton.mpr (UrlPath.isName_empty.isKept _)
      · rintro - n m rest ⟨⟩
    · refine ⟨[], if_neg hspecial, fun h => absurd h hspecial, List.forall_mem_nil _, ?_⟩
      rintro - n m rest ⟨⟩
  · obtain ⟨names, hnames, hne, hkept, hstart⟩ := segmentsOn_kept scheme _
    exact ⟨names, hnames, fun _ => hne, hkept, hstart⟩

/-- **The segments of every address in a special scheme are names.** -/
theorem parse_names {domains : DomainForm} {input : String} (h : parse domains input = .ok url)
    (hspecial : isSpecial url.scheme = true) (hfile : url.scheme ≠ "file") :
    ∃ names, url.path = .segments names ∧ ∀ n ∈ names, UrlPath.IsName n := by
  unfold parse resolve at h
  generalize Parts.of (clean input.toList) = parts at h
  cases hscheme : scheme? parts.body with
  | none =>
      simp only [hscheme] at h
      cases h
  | some found =>
      obtain ⟨scheme, rest⟩ := found
      simp only [hscheme, withScheme, Option.filter_none] at h
      split at h
      · have hbase : ∀ b : Url, none = some b → b.scheme = "file" := nofun
        exact absurd (file_scheme hbase h) hfile
      · split at h
        · obtain ⟨a, -, rfl⟩ := afterSlashes_eq_ok h
          obtain ⟨names, hnames, -, hkept, -⟩ := pathAfterAuthority_kept scheme _
          refine ⟨names, hnames, fun n hn => ?_⟩
          have hkept := hkept n hn
          rw [show isSpecial scheme = true from hspecial] at hkept
          exact hkept.isName
        -- The other schemes are not special, however they go on.
        · rename_i hplain
          split at h
          · rw [afterSlashes_scheme h] at hspecial
            exact absurd hspecial hplain
          · obtain rfl := Except.ok.inj h
            exact absurd hspecial hplain
          · obtain rfl := Except.ok.inj h
            exact absurd hspecial hplain

end Url

end RegionClient
