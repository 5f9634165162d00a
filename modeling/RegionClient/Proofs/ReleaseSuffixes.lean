import RegionClient.Proofs.Interchange
import RegionClient.Proofs.Parts
import RegionClient.Proofs.RoundTrip
import RegionClient.Proofs.VersionTexts

set_option autoImplicit false

/-! # Suffixes of releases

A region controller that is a development build reports its release with a suffix, as in
`2.0.0~beta3`. A suffix begins with a tilde, a plus, a hyphen or a space, and may hold anything after
that: digits, points, and more of these signs.

`VersionInfo.IsBare` says of a text that it has none of the signs, and `VersionInfo.IsSuffix` that it
could be a suffix. Every text is a bare one with a suffix after it, in one way: the bare one is
`numericPart` (`exists_suffix`, `numericPart_append`). So a release is read from the bare text alone,
whatever the suffix looks like.

Main statement: `VersionInfo.read_suffixed`.
-/

namespace RegionClient

namespace VersionInfo

/-! ## Bare texts and suffixes -/

/-- The signs that a suffix begins with. -/
def isSign (c : Char) : Bool :=
  c == '~' || c == '+' || c == '-' || c == ' '

/-- The text has none of the signs. -/
def IsBare (s : String) : Prop :=
  ∀ c ∈ s.toList, isSign c = false

/-- **A suffix** is empty or begins with one of the signs, and has anything after that. -/
def IsSuffix (s : String) : Prop :=
  ∀ c, s.toList.head? = some c → isSign c = true

theorem numericPart_eq (s : String) :
    numericPart s = String.ofList (s.toList.takeWhile fun c => !isSign c) :=
  rfl

/-- **The part before a suffix** ends where the suffix begins. -/
theorem numericPart_append {t suffix : String} (ht : IsBare t) (hsuffix : IsSuffix suffix) :
    numericPart (t ++ suffix) = t := by
  have hbare : ∀ c ∈ t.toList, (!isSign c) = true := by
    intro c hc
    rw [ht c hc]
    rfl
  have hstop : suffix.toList.takeWhile (fun c => !isSign c) = [] := by
    cases hs : suffix.toList with
    | nil => rfl
    | cons c rest =>
      have hsign : isSign c = true := hsuffix c (by rw [hs]; rfl)
      exact List.takeWhile_cons_of_neg (by simp [hsign])
  rw [numericPart_eq, String.toList_append, List.takeWhile_append_of_pos hbare, hstop,
    List.append_nil, String.ofList_toList]

theorem isBare_numericPart (s : String) : IsBare (numericPart s) := by
  intro c hc
  rw [numericPart_eq, String.toList_ofList] at hc
  simpa using List.mem_takeWhile_imp hc

/-- **Every text has a suffix**, which may be empty, after the part before it. -/
theorem exists_suffix (s : String) : ∃ suffix, IsSuffix suffix ∧ s = numericPart s ++ suffix := by
  refine ⟨String.ofList (s.toList.dropWhile fun c => !isSign c), ?_, ?_⟩
  · intro c hc
    -- What is left begins with the first character that is a sign.
    rw [String.toList_ofList, ← List.find?_not_eq_head?_dropWhile] at hc
    simpa using List.find?_some hc
  · rw [numericPart_eq, ← String.ofList_append, List.takeWhile_append_dropWhile,
      String.ofList_toList]

/-! ## Documents -/

/-- The subversion in what a document has under its name. Nothing and null stand for the empty
text. -/
inductive IsSubversion : Option Json → String → Prop where
  | text (s : String) : IsSubversion (some (.string s)) s
  | missing : IsSubversion none ""
  | null : IsSubversion (some .null) ""

theorem IsSubversion.makes {v : Version} {found : Option Json} {s : String}
    (h : IsSubversion found s) (name : String) (rest : List Field) :
    Layout.Makes v (⟨name, found⟩ :: rest) (Layout.textOrEmpty name) s rest := by
  cases h with
  | text s => exact .textOrEmpty s
  | missing => exact .member rfl fun _ => Record.string_ok
  | null => exact .member rfl fun _ => Record.string_ok

/-- A document is read if the part of its release text before the suffix is a version and its other
members are in order. -/
theorem read_ok {requested release : Version} (hrequested : Version.v2_0 ≤ requested)
    {entries : List (String × Json)} {s subversion : String} {capabilities : List String}
    (hs : findEntry "version" entries = some (.string s))
    (hrelease : Version.parse? (numericPart s) = some release)
    (hsubversion : IsSubversion (findEntry "subversion" entries) subversion)
    (hcapabilities :
      findEntry "capabilities" entries = some (.list (capabilities.map .string))) :
    reader.read requested (.object entries) =
      .ok ⟨release, subversion, .ofList capabilities⟩ := by
  have hmakes : Layout.Makes requested [.text "version" s,
      ⟨"subversion", findEntry "subversion" entries⟩, .texts "capabilities" capabilities]
      Kind.versionInfo.layout ⟨release, subversion, .ofList capabilities⟩ [] :=
    .seq (.seq (.map _ (.releaseText hrelease)) (hsubversion.makes _ _)) (.map _ (.texts _))
  refine Kind.read_of_makes (k := .versionInfo) hrequested hmakes rfl ?_
  -- The document has the three members that the layout was put together from.
  intro f hf
  simp only [List.mem_cons, List.not_mem_nil, or_false] at hf
  rcases hf with rfl | rfl | rfl
  · exact hs
  · rfl
  · exact hcapabilities

/-- The release of a document that is read is that of its text. -/
theorem release_of_read {requested : Version} {source : Json} {info : VersionInfo}
    (h : reader.read requested source = .ok info) :
    ∃ s, source.get? "version" = some (.string s) ∧
      Version.parse? (numericPart s) = some info.version := by
  obtain ⟨_, hshape, -⟩ := bind_ok.mp h
  obtain ⟨entries, rfl⟩ := Json.isObject_iff.mp
    (Json.isObject_of_expectObject (mapError_ok.mp hshape))
  by_cases hrequested : Version.v2_0 ≤ requested
  · have hread : Kind.versionInfo.layout.readMembers "version" requested (.object entries) =
        .ok info := (Kind.read_object .versionInfo hrequested rfl).symm.trans h
    obtain ⟨record, hcheck, hlayout⟩ := bind_ok.mp hread
    have hholds := Schema.check_holds Kind.versionInfo.names_nodup (mapError_ok.mp hcheck)
    obtain ⟨s, hs, hfind⟩ := hholds.requiredText List.mem_cons_self
    refine ⟨s, hs, ?_⟩
    -- The other two members do not change the release.
    have hgives : layout.Gives ⟨"version", requested⟩ record fun info =>
        Version.parse? (numericPart s) = some info.version := by
      refine .skip (.skip ?_)
      intro g hg
      obtain ⟨release, hrelease, rfl⟩ := Checker.map_ok hg
      rw [VersionInfo.release, Layout.read_word hfind] at hrelease
      cases hparse : Version.parse? (numericPart s) with
      | none => rw [hparse] at hrelease; cases hrelease
      | some v =>
        rw [hparse] at hrelease
        obtain rfl : v = release := Except.ok.inj hrelease
        exact fun _ _ => rfl
    exact hgives info hlayout
  · have hunsupported := Kind.read_before .versionInfo hrequested (.object entries)
    cases h.symm.trans hunsupported

/-! ## The release alone counts -/

/-- **A suffix does not disturb the release.** Where a bare text is read as a version, a document with
that text and any suffix after it is read, and its release is that version; and the release of any
document that is read is the version of its text before the suffix. -/
theorem read_suffixed (requested : Version) :
    (∀ t suffix release, Version.parse t = .ok release → IsBare t → IsSuffix suffix →
      Version.v2_0 ≤ requested → ∀ entries subversion capabilities,
        findEntry "version" entries = some (.string (t ++ suffix)) →
        IsSubversion (findEntry "subversion" entries) subversion →
        findEntry "capabilities" entries = some (.list (capabilities.map .string)) →
          reader.read requested (.object entries) =
            .ok ⟨release, subversion, .ofList capabilities⟩) ∧
    ∀ source info, reader.read requested source = .ok info →
      ∃ t suffix, source.get? "version" = some (.string (t ++ suffix)) ∧ IsBare t ∧
        IsSuffix suffix ∧ Version.parse t = .ok info.version := by
  constructor
  · intro t suffix release hparse ht hsuffix hrequested entries subversion capabilities hversion
      hsubversion hcapabilities
    have hrelease : Version.parse? (numericPart (t ++ suffix)) = some release := by
      rw [numericPart_append ht hsuffix]
      exact Version.parse_ok_iff.mp hparse
    exact read_ok hrequested hversion hrelease hsubversion hcapabilities
  · intro source info hread
    obtain ⟨s, hs, hrelease⟩ := release_of_read hread
    obtain ⟨suffix, hsuffix, hcut⟩ := exists_suffix s
    exact ⟨numericPart s, suffix, hcut ▸ hs, isBare_numericPart s, hsuffix,
      Version.parse_ok_iff.mpr hrelease⟩

/-- A version document without a subversion. -/
def plainEntries (text : String) : List (String × Json) :=
  [("capabilities", .list [.string "networks-management"]), ("version", .string text)]

/-- A suffix with more signs, and with a version of its own. -/
theorem read_suffixed_beta :
    Version.parse "2.10" = .ok ⟨2, 10, 0⟩ ∧ IsBare "2.10" ∧ IsSuffix "~beta3+bzr.5-1 2.9" ∧
      Version.v2_0 ≤ ⟨2, 9, 1⟩ ∧
      reader.read ⟨2, 9, 1⟩ (.object (plainEntries ("2.10" ++ "~beta3+bzr.5-1 2.9"))) =
        .ok ⟨⟨2, 10, 0⟩, "", .ofList ["networks-management"]⟩ ∧
      ∃ t suffix, findEntry "version" (plainEntries ("2.10" ++ "~beta3+bzr.5-1 2.9")) =
          some (.string (t ++ suffix)) ∧
        IsBare t ∧ IsSuffix suffix ∧ Version.parse t = .ok ⟨2, 10, 0⟩ := by
  have hparse : Version.parse "2.10" = .ok ⟨2, 10, 0⟩ := by decide +kernel
  have hbare : IsBare "2.10" := by
    have hall : "2.10".toList.all (!isSign ·) = true := by decide
    intro c hc
    simpa using List.all_eq_true.mp hall c hc
  have hsuffix : IsSuffix "~beta3+bzr.5-1 2.9" := by
    rintro c ⟨⟩
    rfl
  have hrequested : Version.v2_0 ≤ ⟨2, 9, 1⟩ := by decide
  have hread := (read_suffixed ⟨2, 9, 1⟩).1 "2.10" "~beta3+bzr.5-1 2.9" ⟨2, 10, 0⟩ hparse hbare
    hsuffix hrequested (plainEntries ("2.10" ++ "~beta3+bzr.5-1 2.9")) "" ["networks-management"]
    rfl .missing rfl
  exact ⟨hparse, hbare, hsuffix, hrequested, hread, (read_suffixed ⟨2, 9, 1⟩).2 _ _ hread⟩

end VersionInfo

end RegionClient
