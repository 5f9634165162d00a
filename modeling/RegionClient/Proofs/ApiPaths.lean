import RegionClient.Controller.Connection
import RegionClient.Controller.Files
import RegionClient.Proofs.Segments

set_option autoImplicit false

/-! # Paths of the interface

The paths that a controller makes up itself lead beneath its address: those of the parts of the
interface always, and those of files unless the path of the address begins with two slashes, for
then a path with that beginning names a server.

Main statements: `endpoint_apiPath`, `namesServer_filePath`.
-/

namespace RegionClient.Controller

variable {c : Controller}

/-! ## Parts of the interface -/

/-- The segment with the version of the interface. -/
def versionSegment (c : Controller) : List Char :=
  Nat.toDigits 10 c.version.major.toNat ++ '.' :: Nat.toDigits 10 c.version.minor.toNat

/-- Digits and points may stand in a segment. -/
theorem isPlain_versionSegment (c : Controller) {d : Char} (h : d ∈ c.versionSegment) :
    UrlPath.IsPlain d := by
  have hdigits : ∀ n, ∀ d ∈ Nat.toDigits 10 n, UrlPath.IsPlain d := fun n d hd =>
    Numeral.of_isDigit (by decide) (Nat.isDigit_of_mem_toDigits (by decide) (by decide) hd)
  rcases List.mem_append.mp h with h | h
  · exact hdigits _ d h
  · rcases List.mem_cons.mp h with rfl | h
    · decide
    · exact hdigits _ d h

/-- The version is no dots, as it begins with a digit. -/
theorem isDot_versionSegment (c : Controller) :
    UrlPath.isDot c.versionSegment = false ∧ UrlPath.isDoubleDot c.versionSegment = false := by
  obtain ⟨d, rest, hdigits⟩ := List.exists_cons_of_ne_nil
    (Nat.toDigits_ne_nil : Nat.toDigits 10 c.version.major.toNat ≠ [])
  have hmem : d ∈ Nat.toDigits 10 c.version.major.toNat := hdigits ▸ List.mem_cons_self
  have hd : d.isDigit = true := Nat.isDigit_of_mem_toDigits (by decide) (by decide) hmem
  have hlower : d.toLower ≠ '.' ∧ d.toLower ≠ '%' :=
    Numeral.of_isDigit (P := fun d => d.toLower ≠ '.' ∧ d.toLower ≠ '%') (by decide) hd
  rw [versionSegment, hdigits]
  simp [UrlPath.isDot, UrlPath.isDoubleDot, hlower]

theorem apiPath_toList (c : Controller) (resource : String) : (c.apiPath resource).toList =
    ['a', 'p', 'i', '/'] ++ (c.versionSegment ++ '/' :: resource.toList) := by
  simp [apiPath, versionSegment, Numeral.ofNat]

/-- **A path of the interface names no server.** -/
theorem namesServer_apiPath (base : Url) (c : Controller) (resource : String) :
    base.namesServer (c.apiPath resource) = false := by
  have hpre : ∀ d ∈ ['a', 'p', 'i', '/'], Percent.inPath d = false := by
    simp only [List.forall_mem_cons, List.not_mem_nil, false_imp_iff, implies_true]
    decide
  obtain ⟨rest, query, fragment, hparts, -⟩ :=
    Url.of_clean_append (List.cons_ne_nil _ _) hpre (c.versionSegment ++ '/' :: resource.toList)
  unfold Url.namesServer
  rw [apiPath_toList, hparts]
  rfl

theorem isPlain_api : ∀ d ∈ ['a', 'p', 'i'], UrlPath.IsPlain d := by
  simp only [List.forall_mem_cons, List.not_mem_nil, false_imp_iff, implies_true]
  decide

theorem isPlain_files : ∀ d ∈ ['f', 'i', 'l', 'e', 's'], UrlPath.IsPlain d := by
  simp only [List.forall_mem_cons, List.not_mem_nil, false_imp_iff, implies_true]
  decide

theorem pieces_apiPath (c : Controller) (special : Bool) (s : List Char) :
    Text.pieces (Url.isSlash special) ('a' :: 'p' :: 'i' :: '/' :: (c.versionSegment ++ '/' :: s)) =
      ['a', 'p', 'i'] :: c.versionSegment :: Text.pieces (Url.isSlash special) s := by
  have hslash : Url.isSlash special '/' = true := rfl
  have hapi : ∀ d ∈ ['a', 'p', 'i'], Url.isSlash special d = false := fun d hd =>
    UrlPath.isSlash_of_isPlain (isPlain_api d hd)
  have hversion : ∀ d ∈ c.versionSegment, Url.isSlash special d = false := fun d hd =>
    UrlPath.isSlash_of_isPlain (c.isPlain_versionSegment hd)
  rw [← Text.pieces_append hversion hslash]
  exact Text.pieces_append hapi hslash

/-- **A path of the interface leads beneath the address**: its segments follow those of the address,
of which the last is left out, as it is empty where the address ends in a slash. -/
theorem endpoint_apiPath {names : List String} (hpath : c.address.path = .segments names)
    (hfile : c.address.scheme ≠ "file") {resource : String} {segments : List (List Char)}
    (hpieces :
      Text.pieces (Url.isSlash (Url.isSpecial c.address.scheme)) resource.toList = segments)
    (hplain : ∀ d ∈ resource.toList, Percent.inPath d = false)
    (hdots : ∀ s ∈ segments, UrlPath.isDot s = false ∧ UrlPath.isDoubleDot s = false) :
    c.endpoint (c.apiPath resource) = .ok ⟨c.address.scheme, c.address.authority,
      .segments (names.dropLast ++ "api" :: String.ofList c.versionSegment ::
        segments.map String.ofList), none, none⟩ := by
  have hall : ∀ d ∈ 'a' :: 'p' :: 'i' :: '/' :: (c.versionSegment ++ '/' :: resource.toList),
      Percent.inPath d = false := by
    intro d hd
    simp only [List.mem_cons, List.mem_append] at hd
    rcases hd with rfl | rfl | rfl | rfl | hd | rfl | hd
    · rfl
    · rfl
    · rfl
    · rfl
    · exact (c.isPlain_versionSegment hd).1
    · rfl
    · exact hplain d hd
  have hcut := c.pieces_apiPath (Url.isSpecial c.address.scheme) resource.toList
  rw [hpieces] at hcut
  -- No segment is encoded or left out, as all are plain and none is dots.
  have hread : Url.segmentsOn c.address.scheme names.dropLast
      ('a' :: 'p' :: 'i' :: '/' :: (c.versionSegment ++ '/' :: resource.toList)) =
      .segments (names.dropLast ++ "api" :: String.ofList c.versionSegment ::
        segments.map String.ofList) := by
    refine Url.segmentsOn_plain hfile hcut ?_ ?_
    · intro s hs d hd
      rw [← hcut] at hs
      exact hall d (Text.of_mem_pieces hs hd).1
    · intro s hs
      rcases List.mem_cons.mp hs with rfl | hs
      · decide
      · rcases List.mem_cons.mp hs with rfl | hs
        · exact c.isDot_versionSegment
        · exact hdots s hs
  rw [endpoint, Url.join_plain hpath hfile (c.apiPath_toList resource) hall rfl rfl,
    Url.parent_rules hfile]
  exact congrArg _ (congrArg (Url.assemble _ _ _) hread)

/-! ## Files -/

/-- The path of a file has no scheme, as it is empty or begins with a slash. -/
theorem scheme_filePath {filename path : String} (h : c.filePath filename = .ok path) :
    Url.scheme? (Url.Parts.of (Url.clean path.toList)).body = none := by
  simp only [filePath, bind, Except.bind] at h
  split at h
  · cases h
  · split at h
    · cases h
    · obtain rfl := Except.ok.inj h
      cases hnames : UrlPath.push _ (UrlPath.push _ (UrlPath.withoutSlash _) filename) "" with
      | nil => rfl
      | cons n rest =>
          rw [UrlPath.text_cons]
          exact Url.scheme_slash _

/-- The segments beneath which files are. -/
def filesNames (c : Controller) (names : List String) : List String :=
  names.dropLast ++ ["api", String.ofList c.versionSegment, "files"]

/-- Files are beneath the address. -/
theorem endpoint_filesPath {names : List String} (hpath : c.address.path = .segments names)
    (hfile : c.address.scheme ≠ "file") :
    c.endpoint c.filesPath = .ok ⟨c.address.scheme, c.address.authority,
      .segments (c.filesNames names ++ [""]), none, none⟩ := by
  have hpieces : Text.pieces (Url.isSlash (Url.isSpecial c.address.scheme)) "files/".toList =
      [['f', 'i', 'l', 'e', 's'], []] := by
    cases Url.isSpecial c.address.scheme with
    | true => rfl
    | false => rfl
  have hplain : ∀ d ∈ "files/".toList, Percent.inPath d = false := by
    show ∀ d ∈ ['f', 'i', 'l', 'e', 's'] ++ ['/'], Percent.inPath d = false
    exact List.forall_mem_append.mpr
      ⟨fun d hd => (isPlain_files d hd).1, List.forall_mem_singleton.mpr rfl⟩
  have hall := endpoint_apiPath hpath hfile hpieces hplain (by decide)
  rw [filesNames, List.append_assoc]
  exact hall

/-- The path of a file has one name more than those of all files, and a slash. -/
theorem filePath_eq {names : List String} (hpath : c.address.path = .segments names)
    (hfile : c.address.scheme ≠ "file") (filename : String) :
    let push := UrlPath.push (Url.isSpecial c.address.scheme)
    c.filePath filename =
      .ok (UrlPath.segments (push (push (c.filesNames names) filename) "")).text := by
  have hbefore : UrlPath.withoutSlash (c.filesNames names ++ [""]) = c.filesNames names := by
    simp [UrlPath.withoutSlash, filesNames]
  simp only [filePath, endpoint_filesPath hpath hfile, bind, Except.bind, hbefore]
  rfl

/-- There are at least two such segments, and the first of them is that of the address, or that of
the interface if the address has none. -/
theorem filesNames_eq (c : Controller) (names : List String) : ∃ first second rest,
    c.filesNames names = first :: second :: rest ∧
      ((first = "api" ∧ names.length < 2) ∨ ∃ n more, names = first :: n :: more) := by
  match names with
  | [] => exact ⟨_, _, _, rfl, .inl ⟨rfl, by decide⟩⟩
  | [_] => exact ⟨_, _, _, rfl, .inl ⟨rfl, Nat.one_lt_two⟩⟩
  | first :: n :: more =>
      obtain ⟨second, rest, hrest⟩ := List.exists_cons_of_ne_nil
        (List.append_ne_nil_of_right_ne_nil (n :: more).dropLast
          (List.cons_ne_nil "api" [String.ofList c.versionSegment, "files"]))
      refine ⟨first, second, rest, ?_, .inr ⟨n, more, rfl⟩⟩
      rw [← hrest]
      rfl

/-- The path of a file begins with the first of the segments beneath which files are. -/
theorem filePath_toList {names : List String} (hpath : c.address.path = .segments names)
    (hfile : c.address.scheme ≠ "file") {filename path : String}
    (h : c.filePath filename = .ok path) : ∃ first s,
      ((first = "api" ∧ names.length < 2) ∨ ∃ n more, names = first :: n :: more) ∧
        path.toList = '/' :: (first.toList ++ s) := by
  rw [filePath_eq hpath hfile filename] at h
  obtain rfl := Except.ok.inj h
  -- There are two segments at least, so the first is still there after both names are added.
  obtain ⟨first, second, rest, hsegments, hfirst⟩ := c.filesNames_eq names
  obtain ⟨second', rest', hpush⟩ := UrlPath.push_cons _ first second rest filename
  obtain ⟨second'', rest'', hpush'⟩ := UrlPath.push_cons _ first second' rest' ""
  refine ⟨first, (UrlPath.segments (second'' :: rest'')).text.toList, hfirst, ?_⟩
  rw [hsegments, hpush, hpush', UrlPath.text_cons]

/-- **The path of a file names no server** unless that of the address begins with two slashes. -/
theorem namesServer_filePath (base : Url) {names : List String}
    (hpath : c.address.path = .segments names) (hfile : c.address.scheme ≠ "file")
    (hplain : ∀ n ∈ names, ∀ d ∈ n.toList, UrlPath.IsPlain d)
    (hstart : ∀ n rest, names ≠ "" :: n :: rest) {filename path : String}
    (h : c.filePath filename = .ok path) : base.namesServer path = false := by
  obtain ⟨first, s, hfirst, hlist⟩ := filePath_toList hpath hfile h
  have hname : first ≠ "" ∧ ∀ d ∈ first.toList, UrlPath.IsPlain d := by
    rcases hfirst with ⟨rfl, -⟩ | ⟨n, more, rfl⟩
    · exact ⟨by decide, isPlain_api⟩
    · refine ⟨?_, hplain first List.mem_cons_self⟩
      rintro rfl
      exact hstart n more rfl
  -- A name that is not empty keeps a second slash away from the first.
  obtain ⟨d, more, hmore⟩ := List.exists_cons_of_ne_nil
    (fun hnil => hname.1 (String.toList_eq_nil_iff.mp hnil))
  have hd : UrlPath.IsPlain d := hname.2 d (hmore ▸ List.mem_cons_self)
  rw [hmore, List.cons_append] at hlist
  exact Url.namesServer_path base hlist hd.1 hd.2

end RegionClient.Controller
