import Mathlib.Data.List.DropRight
import RegionClient.Proofs.Interchange
import RegionClient.Proofs.Parts
import RegionClient.Proofs.Texts

set_option autoImplicit false

/-! # Lists of names in a text

A boot image has the names of its sub-architectures in one text, with commas between them.
`ListsNames` says which names a text lists: between two commas there are only blanks, or one name
with blanks around it. Every text lists some names (`exists_listsNames`), and what is read from
a text is the set of the names that it lists (`BootImage.namesIn_eq`). So nothing matters in the
text but its names, and nothing is read that could not stand in a list.
-/

namespace RegionClient

/-! ## Trimmed texts -/

namespace Text

/-- A text neither begins nor ends with a blank. -/
structure HasPlainEdges (s : List Char) : Prop where
  begins : ∀ c, s.head? = some c → isBlank c = false
  ends : ∀ c, s.getLast? = some c → isBlank c = false

theorem not_isBlank_of_head? {s : List Char} {c : Char}
    (h : (s.dropWhile isBlank).head? = some c) : isBlank c = false := by
  rw [← List.find?_not_eq_head?_dropWhile] at h
  simpa using List.find?_some h

theorem hasPlainEdges_trimmed (s : List Char) : HasPlainEdges (trimmed s) where
  begins c h := by
    -- What is dropped at the end does not change the beginning.
    obtain ⟨rest, hrest⟩ := List.rdropWhile_prefix isBlank (l := s.dropWhile isBlank)
    refine not_isBlank_of_head? (s := s) ?_
    have hhead : (trimmed s ++ rest).head? = some c := by rw [List.head?_append, h]; rfl
    rwa [← hrest]
  ends c h := by
    rw [trimmed, List.getLast?_reverse] at h
    exact not_isBlank_of_head? h

theorem trimmed_eq_self {s : List Char} (h : HasPlainEdges s) : trimmed s = s := by
  have hbegins : s.dropWhile isBlank = s := by
    refine List.dropWhile_eq_self_iff.mpr fun hpos => ?_
    rw [h.begins s[0] (by rw [List.head?_eq_getElem?, List.getElem?_eq_getElem hpos])]
    decide
  have hends : s.rdropWhile isBlank = s := by
    refine List.rdropWhile_eq_self_iff.mpr fun hne => ?_
    rw [h.ends _ (List.getLast?_eq_some_getLast hne)]
    decide
  rw [trimmed, hbegins]
  exact hends

theorem trimmed_eq_nil {s : List Char} (h : ∀ c ∈ s, isBlank c = true) : trimmed s = [] := by
  rw [trimmed, List.dropWhile_eq_nil_iff.mpr h]
  rfl

end Text

/-! ## Names in a list -/

/-- **A name in a list**: it is not empty, has no comma, and neither begins nor ends with
a blank. -/
structure IsListName (name : String) : Prop where
  nonempty : name ≠ ""
  noComma : ',' ∉ name.toList
  plain : Text.HasPlainEdges name.toList

/-- **A place in a list** is blank, or it has a name with blanks around it. -/
inductive ListPlace : List Char → List String → Prop where
  | blank {s : List Char} (h : ∀ c ∈ s, Text.isBlank c = true) : ListPlace s []
  | name {before after : List Char} {name : String} (h : IsListName name)
      (hbefore : ∀ c ∈ before, Text.isBlank c = true)
      (hafter : ∀ c ∈ after, Text.isBlank c = true) :
      ListPlace (before ++ name.toList ++ after) [name]

/-- **The text lists the names**: it has places with commas between them. -/
inductive ListsNames : List Char → List String → Prop where
  | last {s : List Char} {names : List String} (h : ListPlace s names) : ListsNames s names
  | more {s rest : List Char} {names others : List String} (h : ListPlace s names)
      (hrest : ListsNames rest others) : ListsNames (s ++ ',' :: rest) (names ++ others)

namespace ListPlace

variable {s : List Char} {names : List String}

theorem isListName (h : ListPlace s names) : ∀ name ∈ names, IsListName name := by
  cases h with
  | blank => exact fun _ hname => nomatch hname
  | name h =>
    intro name hname
    rwa [List.mem_singleton.mp hname]

theorem noComma (h : ListPlace s names) : ∀ c ∈ s, (c == ',') = false := by
  have hblank {c : Char} (hc : Text.isBlank c = true) : (c == ',') = false := by
    by_contra hcomma
    rw [Bool.not_eq_false, beq_iff_eq] at hcomma
    subst hcomma
    revert hc
    decide
  cases h with
  | blank h => exact fun c hc => hblank (h c hc)
  | name h hbefore hafter =>
    intro c hc
    rw [List.mem_append, List.mem_append] at hc
    rcases hc with (hc | hc) | hc
    · exact hblank (hbefore c hc)
    · exact beq_false_of_ne fun heq => h.noComma (heq ▸ hc)
    · exact hblank (hafter c hc)

/-- What is left of a place without the blanks is its name, if there is one. -/
theorem filter_trim (h : ListPlace s names) :
    [Text.trim (String.ofList s)].filter (fun name => !name.isEmpty) = names := by
  rw [Text.trim, String.toList_ofList]
  cases h with
  | blank h =>
    rw [Text.trimmed_eq_nil h]
    rfl
  | name h hbefore hafter =>
    rw [Text.trimmed_padded _ hbefore hafter, Text.trimmed_eq_self h.plain, String.ofList_toList]
    simp [h.nonempty]

/-- A text without commas is a place. -/
theorem exists_names (h : ',' ∉ s) : ∃ names, ListPlace s names := by
  obtain ⟨before, after, hbefore, hafter, hs⟩ := Text.exists_trimmed s
  by_cases hempty : Text.trimmed s = []
  · refine ⟨[], .blank fun c hc => ?_⟩
    rw [hs, hempty, List.append_nil, List.mem_append] at hc
    exact hc.elim (hbefore c) (hafter c)
  · have hname : IsListName (String.ofList (Text.trimmed s)) := by
      refine ⟨fun heq => hempty (String.ofList_eq_empty_iff.mp heq), ?_, ?_⟩
      · rw [String.toList_ofList]
        exact fun hc => h (hs ▸ List.mem_append_left _ (List.mem_append_right _ hc))
      · rw [String.toList_ofList]
        exact Text.hasPlainEdges_trimmed s
    refine ⟨[String.ofList (Text.trimmed s)], ?_⟩
    have hplace := ListPlace.name hname hbefore hafter
    rwa [String.toList_ofList, ← hs] at hplace

end ListPlace

namespace ListsNames

variable {s : List Char} {names : List String}

theorem isListName (h : ListsNames s names) : ∀ name ∈ names, IsListName name := by
  induction h with
  | last h => exact h.isListName
  | more h _ ih =>
    intro name hname
    exact (List.mem_append.mp hname).elim (h.isListName name) (ih name)

/-- The places of a text are its pieces between commas. -/
theorem filter_split (h : ListsNames s names) :
    (((Text.pieces (· == ',') s).map String.ofList).map Text.trim).filter
      (fun name => !name.isEmpty) = names := by
  induction h with
  | last h =>
    rw [Text.pieces_of_no_separator h.noComma]
    exact h.filter_trim
  | more h _ ih =>
    rw [Text.pieces_append h.noComma rfl, List.map_cons, List.map_cons, ← List.singleton_append,
      List.filter_append, h.filter_trim, ih]

end ListsNames

/-- **Every text lists some names.** -/
theorem exists_listsNames (s : List Char) : ∃ names, ListsNames s names := by
  -- On the length of the text, from each comma to the next.
  induction hn : s.length using Nat.strong_induction_on generalizing s with
  | _ n ih =>
    subst hn
    by_cases hcomma : ',' ∈ s
    · obtain ⟨place, rest, rfl, hplace⟩ := List.eq_append_cons_of_mem hcomma
      obtain ⟨names, hnames⟩ := ListPlace.exists_names hplace
      obtain ⟨others, hothers⟩ := ih rest.length (by simp; omega) rest rfl
      exact ⟨_, .more hnames hothers⟩
    · obtain ⟨names, hnames⟩ := ListPlace.exists_names hcomma
      exact ⟨names, .last hnames⟩

/-- **The set of the names** that a text lists is read from it. -/
theorem BootImage.namesIn_eq {s : String} {names : List String} (h : ListsNames s.toList names) :
    namesIn s = .ofList names :=
  congrArg SortedSet.ofList h.filter_split

/-! ## Boot images -/

theorem SortedSet.mem_toList_ofList (items : List String) (item : String) :
    item ∈ (ofList items).toList ↔ item ∈ items := by
  have hfold : ∀ (m : SortedMap Unit),
      ((items.map fun i => (i, ())).foldl (fun m e => m.insert e.1 e.2) m).get? item = some () ↔
        m.get? item = some () ∨ item ∈ items := by
    induction items with
    | nil => simp
    | cons first rest ih =>
      intro m
      rw [List.map_cons, List.foldl_cons, ih, SortedMap.get?_insert, List.mem_cons]
      split
      · simp_all
      · rename_i hne
        simp [Ne.symm hne]
  have hkeys : item ∈ (ofList items).toList ↔ (item, ()) ∈ (ofList items).toMap.entries := by
    rw [toList, SortedMap.keys, List.mem_map]
    constructor
    · rintro ⟨_, he, rfl⟩
      exact he
    · intro he
      exact ⟨_, he, rfl⟩
  rw [hkeys, SortedMap.mem_entries, ofList, SortedMap.ofList, hfold, SortedMap.get?_empty]
  simp

namespace BootImage

variable {scope : Scope} {record record' : Record} {image : BootImage} {s : String}

/-- Only the text of the names tells one image from the other. -/
theorem layout_read (hread : layout.read scope record = .ok image)
    (hother : ∀ name, name ≠ "subarches" → record'.find name = record.find name)
    (hs : record'.find "subarches" = .ok (some (.string s))) :
    layout.read scope record' = .ok { image with subArchitectures := namesIn s } := by
  have htext {name : String} (hname : name ≠ "subarches") : record'.string name = record.string name :=
    Member.ReadBy.text.get_congr (hother name hname)
  have hint {name : String} (hname : name ≠ "subarches") : record'.int name = record.int name :=
    Member.ReadBy.int.get_congr (hother name hname)
  simp only [layout, Layout.read_seq, Layout.read_map, Layout.text, Layout.int, Layout.textOrEmpty,
    Layout.read_member] at hread ⊢
  rw [htext (by decide : "resource_uri" ≠ _), hint (by decide : "id" ≠ _),
    htext (by decide : "name" ≠ _), htext (by decide : "type" ≠ _),
    htext (by decide : "architecture" ≠ _), htext (by decide : "kflavor" ≠ _), Record.string_ok hs]
  -- Each member but the text of the names gives the same value in both, if it gives one.
  revert hread
  rcases record.string "resource_uri" with _ | uri
  · rintro ⟨⟩
  rcases record.int "id" with _ | id
  · rintro ⟨⟩
  rcases record.string "name" with _ | name
  · rintro ⟨⟩
  rcases record.string "type" with _ | kind
  · rintro ⟨⟩
  rcases record.string "architecture" with _ | architecture
  · rintro ⟨⟩
  rcases record.string "subarches" with _ | names
  · rintro ⟨⟩
  rcases record.string "kflavor" with _ | flavor
  · rintro ⟨⟩
  rintro ⟨⟩
  rfl

theorem read_eq {v : Version} (hv : Version.v2_0 ≤ v) (entries : List (String × Json)) :
    reader.read v (.object entries) =
      (checkFields Kind.bootImage.schema (.object entries) (Scope.mk "boot resource" v).stage).bind
        (layout.read ⟨"boot resource", v⟩) :=
  Kind.read_object .bootImage hv rfl

/-- The text of the names is checked for nothing but that it is a text. -/
theorem read_relisted {v : Version} {entries entries' : List (String × Json)}
    (hread : reader.read v (.object entries) = .ok image)
    (hother : ∀ name, name ≠ "subarches" → findEntry name entries' = findEntry name entries)
    (hs : findEntry "subarches" entries' = some (.string s)) :
    reader.read v (.object entries') = .ok { image with subArchitectures := namesIn s } := by
  by_cases hv : Version.v2_0 ≤ v
  · rw [read_eq hv] at hread ⊢
    obtain ⟨record, hcheck, hlayout⟩ := bind_ok.mp hread
    have hm : (⟨"subarches", .nullable .string, .default (.string "")⟩ : Member Checker) ∈
        Kind.bootImage.schema := List.mem_of_getElem? (rfl : Kind.bootImage.schema[5]? = some _)
    have hsettle : Member.settle ⟨"subarches", .nullable .string, .default (.string "")⟩ []
        (findEntry "subarches" entries') = .ok (some (.string s)) := by
      rw [hs]
      rfl
    obtain ⟨record', hcheck', hfind, hsame⟩ := Schema.check_replaced Kind.bootImage.names_nodup hm
      (mapError_ok.mp hcheck) hother hsettle
    rw [checkFields, hcheck']
    exact layout_read hlayout hsame hfind
  · have hunsupported := Kind.read_before .bootImage hv (.object entries)
    cases hread.symm.trans hunsupported

/-- An image has the names of some text. -/
theorem read_names {v : Version} {source : Json} (hread : reader.read v source = .ok image) :
    ∃ s, image.subArchitectures = namesIn s := by
  obtain ⟨_, hshape, -⟩ := bind_ok.mp hread
  obtain ⟨entries, rfl⟩ := Json.isObject_iff.mp
    (Json.isObject_of_expectObject (mapError_ok.mp hshape))
  by_cases hv : Version.v2_0 ≤ v
  · rw [read_eq hv] at hread
    obtain ⟨record, -, hlayout⟩ := bind_ok.mp hread
    have hgives : layout.Gives ⟨"boot resource", v⟩ record fun image =>
        ∃ s, image.subArchitectures = namesIn s := by
      refine .skip (.seq (Q := fun names => ∃ s, names = namesIn s) ?_ (.map fun s => ⟨s, rfl⟩))
      iterate 4 apply Layout.Gives.skip
      refine .map ?_
      intros
      assumption
    exact hgives image hlayout
  · have hunsupported := Kind.read_before .bootImage hv (.object entries)
    cases hread.symm.trans hunsupported

/-- **The names in the text of an image are decoded as a set.** An image that can be read can be
read with any text in place of its own, and then has the names that the text lists, each once; and
whatever an image was read from, it has only names that a text can list. -/
theorem names_decoded (v : Version) :
    (∀ entries entries' image s names, reader.read v (.object entries) = .ok image →
      (∀ name, name ≠ "subarches" → findEntry name entries' = findEntry name entries) →
      findEntry "subarches" entries' = some (.string s) → ListsNames s.toList names →
      ∃ names', reader.read v (.object entries') = .ok { image with subArchitectures := names' } ∧
        ∀ name, name ∈ names'.toList ↔ name ∈ names) ∧
    ∀ source image, reader.read v source = .ok image →
      ∀ name ∈ image.subArchitectures.toList, IsListName name := by
  refine ⟨fun entries entries' image s names hread hother hs hnames => ?_,
    fun source image hread name hname => ?_⟩
  · refine ⟨.ofList names, ?_, SortedSet.mem_toList_ofList names⟩
    rw [read_relisted hread hother hs, namesIn_eq hnames]
  · obtain ⟨s, hs⟩ := read_names hread
    obtain ⟨names, hnames⟩ := exists_listsNames s.toList
    rw [hs, namesIn_eq hnames, SortedSet.mem_toList_ofList] at hname
    exact hnames.isListName name hname

/-- A document of an image, with a text of names. -/
def imageEntries (names : String) : List (String × Json) :=
  [("architecture", .string "amd64/generic"), ("id", .integer 5), ("name", .string "ubuntu/xenial"),
    ("resource_uri", .string "/boot-resources/5/"), ("subarches", .string names),
    ("type", .string "Synced")]

/-- Blanks, empty places and repetitions make no difference. -/
theorem names_decoded_padded : ∃ image names',
    reader.read .v2_0 (.object (imageEntries "hwe-p")) = .ok image ∧
    reader.read .v2_0 (.object (imageEntries " hwe-p,, generic,generic")) =
      .ok { image with subArchitectures := names' } ∧
    ∀ name, name ∈ names'.toList ↔ name ∈ ["hwe-p", "generic", "generic"] := by
  obtain ⟨image, hread⟩ : ∃ image,
    reader.read .v2_0 (.object (imageEntries "hwe-p")) = .ok image := ⟨_, rfl⟩
  have hplain {name : String} (h : name.toList.all (!Text.isBlank ·) = true) :
      Text.HasPlainEdges name.toList := by
    have hblank (c : Char) (hc : c ∈ name.toList) : Text.isBlank c = false := by
      simpa using List.all_eq_true.mp h c hc
    exact ⟨fun c hc => hblank c (List.mem_of_head? hc), fun c hc => hblank c (List.mem_of_getLast? hc)⟩
  have hhwe : IsListName "hwe-p" := ⟨by decide, by decide, hplain (by decide)⟩
  have hgeneric : IsListName "generic" := ⟨by decide, by decide, hplain (by decide)⟩
  have hblank : ∀ c ∈ [' '], Text.isBlank c = true := List.forall_mem_singleton.mpr rfl
  have hnone : ∀ c ∈ ([] : List Char), Text.isBlank c = true := List.forall_mem_nil _
  have hnames : ListsNames " hwe-p,, generic,generic".toList ["hwe-p", "generic", "generic"] :=
    .more (.name hhwe hblank hnone : ListPlace ([' '] ++ _ ++ []) _)
      (.more (.blank hnone) (.more (.name hgeneric hblank hnone : ListPlace ([' '] ++ _ ++ []) _)
        (.last (.name hgeneric hnone hnone : ListPlace ([] ++ _ ++ []) _))))
  obtain ⟨names', hread', hmem⟩ := (names_decoded .v2_0).1 _ (imageEntries " hwe-p,, generic,generic")
    image _ _ hread (fun name hname => by simp [imageEntries, findEntry, hname.symm]) rfl hnames
  exact ⟨image, names', hread, hread', hmem⟩

end BootImage

end RegionClient
