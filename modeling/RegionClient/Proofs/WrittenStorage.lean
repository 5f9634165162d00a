import RegionClient.Proofs.Texts
import RegionClient.Proofs.WrittenConstraints

set_option autoImplicit false

/-! # Written storage constraints

The storage constraints of an allocation are sent as one text, `label:size(tag,tag)` for each and
commas between them, where label and tags may be missing. A comma thus stands between constraints
and between tags, and a label may look like a size.

The text still tells all lists apart in which labels and tags hold none of the four delimiters
(`StorageConstraint.Delimited`): the first delimiter of a constraint is a colon if there is a label,
and what follows the size says whether there are tags. `cut_at_first` is the fact about either cut,
and `Constraints.storage_eq` the result for whole lists.
-/

namespace RegionClient

/-! ## Cutting at the first delimiter -/

/-- **A cut at the first delimiter is unique**, whichever delimiter it is. -/
theorem cut_at_first {α : Type} {isDelimiter : α → Bool} {d d' : α} {l l' r r' : List α}
    (hl : ∀ a ∈ l, isDelimiter a = false) (hl' : ∀ a ∈ l', isDelimiter a = false)
    (hd : isDelimiter d = true) (hd' : isDelimiter d' = true) (h : l ++ d :: r = l' ++ d' :: r') :
    l = l' ∧ d = d' ∧ r = r' := by
  induction l generalizing l' with
  | nil =>
    cases l' with
    | nil => exact ⟨rfl, List.cons.inj h⟩
    | cons a' l' =>
      obtain ⟨rfl, -⟩ := List.cons.inj h
      rw [hl' d List.mem_cons_self] at hd
      cases hd
  | cons a l ih =>
    cases l' with
    | nil =>
      obtain ⟨rfl, -⟩ := List.cons.inj h
      rw [hl a List.mem_cons_self] at hd'
      cases hd'
    | cons a' l' =>
      obtain ⟨rfl, hrest⟩ := List.cons.inj h
      obtain ⟨rfl, hsame⟩ := ih (fun b hb => hl b (List.mem_cons_of_mem a hb))
        (fun b hb => hl' b (List.mem_cons_of_mem a hb)) hrest
      exact ⟨rfl, hsame⟩

theorem Numeral.toDigits_inj {n n' : Nat} (h : Nat.toDigits 10 n = Nat.toDigits 10 n') :
    n = n' := by
  have hread := natural?_toDigits n
  rw [h, natural?_toDigits] at hread
  exact (Option.some.inj hread).symm

/-! ## Storage constraints -/

namespace StorageConstraint

/-- What stands between the parts of written constraints. -/
def isDelimiter (c : Char) : Bool :=
  c ∈ [',', ':', '(', ')']

/-- No delimiter stands in the label or in a tag. -/
def Delimited (c : StorageConstraint) : Prop :=
  (∀ d ∈ c.label.toList, isDelimiter d = false) ∧
    ∀ t ∈ c.tags, ∀ d ∈ t.toList, isDelimiter d = false

instance (c : StorageConstraint) : Decidable c.Delimited :=
  decidable_of_iff ((c.label.toList.all (!isDelimiter ·)) = true ∧
    (c.tags.all (·.toList.all (!isDelimiter ·))) = true) (by simp [Delimited])

/-- What is written after the size, with a comma at the end. -/
def closedTags (tags : List String) : List Char :=
  if tags = [] then [','] else '(' :: ((Text.joined "," tags).toList ++ [')', ','])

/-- What is written after the label, with a comma at the end. -/
def closedSize (c : StorageConstraint) : List Char :=
  Nat.toDigits 10 c.size.toNat ++ closedTags c.tags

/-- The written form of a constraint with a comma at the end. -/
def closed (c : StorageConstraint) : List Char :=
  if c.label = "" then c.closedSize else c.label.toList ++ ':' :: c.closedSize

theorem text_closed (c : StorageConstraint) : c.text.toList ++ [','] = c.closed := by
  rw [text, closed, closedSize, closedTags]
  by_cases hlabel : c.label = "" <;> by_cases htags : c.tags = [] <;>
    simp [hlabel, htags, Numeral.ofNat]

theorem closed_ne_nil (c : StorageConstraint) : c.closed ≠ [] := by
  simp [← text_closed]

/-- After the size comes a comma or a parenthesis. -/
theorem closedTags_append (tags : List String) (s : List Char) :
    ∃ d r, closedTags tags ++ s = d :: r ∧ isDelimiter d = true ∧ d ≠ ':' := by
  rw [closedTags]
  split
  · exact ⟨',', s, rfl, by decide, by decide⟩
  · exact ⟨'(', _, List.cons_append, by decide, by decide⟩

theorem closedTags_append_inj {tags tags' : List String}
    (htags : ∀ t ∈ tags, ∀ d ∈ t.toList, isDelimiter d = false)
    (htags' : ∀ t ∈ tags', ∀ d ∈ t.toList, isDelimiter d = false) {s s' : List Char}
    (h : closedTags tags ++ s = closedTags tags' ++ s') : tags = tags' ∧ s = s' := by
  -- Commas stand between tags, but no closing parenthesis does.
  have hjoined {tags : List String} (htags : ∀ t ∈ tags, ∀ d ∈ t.toList, isDelimiter d = false) :
      ∀ d ∈ (Text.joined "," tags).toList, (d == ')') = false := by
    intro d hd
    rcases Text.of_mem_joined hd with hd | ⟨t, ht, hd⟩
    · obtain rfl : d = ',' := by simpa using hd
      decide
    · have hno := htags t ht d hd
      simp only [isDelimiter, List.mem_cons, List.not_mem_nil, or_false, decide_eq_false_iff_not,
        not_or] at hno
      simpa using hno.2.2.2
  have hsplit {tags : List String} (hne : tags ≠ [])
      (htags : ∀ t ∈ tags, ∀ d ∈ t.toList, isDelimiter d = false) :
      Text.split (· == ',') (Text.joined "," tags) = tags := by
    refine Text.split_joined rfl hne fun t ht hcomma => ?_
    cases htags t ht ',' hcomma
  by_cases hne : tags = []
  · by_cases hne' : tags' = []
    · simp only [closedTags, hne, hne', if_true, List.singleton_append] at h
      exact ⟨hne.trans hne'.symm, (List.cons.inj h).2⟩
    · simp [closedTags, hne, hne'] at h
  · by_cases hne' : tags' = []
    · simp [closedTags, hne, hne'] at h
    · simp only [closedTags, hne, hne', if_false, List.cons_append, List.append_assoc,
        List.nil_append, List.cons.injEq, true_and] at h
      obtain ⟨htext, -, hrest⟩ := cut_at_first (hjoined htags) (hjoined htags') rfl rfl h
      rw [← hsplit hne htags, ← hsplit hne' htags', String.toList_inj.mp htext]
      exact ⟨rfl, (List.cons.inj hrest).2⟩

variable {c c' : StorageConstraint}

theorem digits_no_delimiter (n : Nat) : ∀ d ∈ Nat.toDigits 10 n, isDelimiter d = false :=
  fun _ hd => Numeral.of_isDigit (P := fun d => isDelimiter d = false) (by decide)
    (Numeral.isDigit_toDigits hd)

theorem closedSize_append_inj (hc : c.Delimited) (hc' : c'.Delimited) {s s' : List Char}
    (h : c.closedSize ++ s = c'.closedSize ++ s') :
    c.size = c'.size ∧ c.tags = c'.tags ∧ s = s' := by
  rw [closedSize, closedSize, List.append_assoc, List.append_assoc] at h
  obtain ⟨d, r, hr, hd, -⟩ := closedTags_append c.tags s
  obtain ⟨d', r', hr', hd', -⟩ := closedTags_append c'.tags s'
  have hcut : Nat.toDigits 10 c.size.toNat = Nat.toDigits 10 c'.size.toNat ∧ d = d' ∧ r = r' :=
    cut_at_first (digits_no_delimiter _) (digits_no_delimiter _) hd hd' (by rwa [hr, hr'] at h)
  obtain ⟨hsize, rfl, rfl⟩ := hcut
  refine ⟨UInt64.toNat_inj.mp (Numeral.toDigits_inj hsize), ?_⟩
  exact closedTags_append_inj hc.2 hc'.2 (hr.trans hr'.symm)

/-- A written constraint begins with its label and a colon, or with its size and no colon. -/
theorem closed_append (hc : c.Delimited) (s : List Char) : ∃ start d r,
    c.closed ++ s = start ++ d :: r ∧ (∀ a ∈ start, isDelimiter a = false) ∧
      isDelimiter d = true ∧ (d = ':' ↔ c.label ≠ "") ∧
      (c.label ≠ "" → start = c.label.toList ∧ r = c.closedSize ++ s) := by
  by_cases hlabel : c.label = ""
  · obtain ⟨d, r, hr, hd, hcolon⟩ := closedTags_append c.tags s
    refine ⟨Nat.toDigits 10 c.size.toNat, d, r, ?_, digits_no_delimiter _, hd, ?_, ?_⟩
    · rw [closed, if_pos hlabel, closedSize, List.append_assoc, hr]
    · simp [hlabel, hcolon]
    · exact fun hne => absurd hlabel hne
  · refine ⟨c.label.toList, ':', c.closedSize ++ s, ?_, hc.1, by decide, ?_, fun _ => ⟨rfl, rfl⟩⟩
    · rw [closed, if_neg hlabel, List.append_assoc, List.cons_append]
    · simp [hlabel]

/-- What begins with a closed constraint tells it and what follows. -/
theorem closed_append_inj (hc : c.Delimited) (hc' : c'.Delimited) {s s' : List Char}
    (h : c.closed ++ s = c'.closed ++ s') : c = c' ∧ s = s' := by
  obtain ⟨start, d, r, hr, hstart, hd, hcolon, hlabelled⟩ := closed_append hc s
  obtain ⟨start', d', r', hr', hstart', hd', hcolon', hlabelled'⟩ := closed_append hc' s'
  obtain ⟨rfl, rfl, rfl⟩ := cut_at_first hstart hstart' hd hd' (hr.symm.trans (h.trans hr'))
  have hsame : c.label = c'.label ∧ c.closedSize ++ s = c'.closedSize ++ s' := by
    by_cases hlabel : c.label = ""
    · have hlabel' : c'.label = "" := by
        by_contra hne
        exact hcolon.mp (hcolon'.mpr hne) hlabel
      rw [closed, closed, if_pos hlabel, if_pos hlabel'] at h
      exact ⟨hlabel.trans hlabel'.symm, h⟩
    · have hlabel' : c'.label ≠ "" := hcolon'.mp (hcolon.mpr hlabel)
      obtain ⟨hl, hs⟩ := hlabelled hlabel
      obtain ⟨hl', hs'⟩ := hlabelled' hlabel'
      exact ⟨String.toList_inj.mp (hl.symm.trans hl'), hs.symm.trans hs'⟩
  obtain ⟨hsize, htags, hs⟩ := closedSize_append_inj hc hc' hsame.2
  refine ⟨?_, hs⟩
  obtain ⟨label, size, tags⟩ := c
  obtain ⟨label', size', tags'⟩ := c'
  obtain rfl : label = label' := hsame.1
  obtain rfl : size = size' := hsize
  obtain rfl : tags = tags' := htags
  rfl

theorem joined_text_closed {cs : List StorageConstraint} (hne : cs ≠ []) :
    (Text.joined "," (cs.map text)).toList ++ [','] = cs.flatMap closed := by
  have htexts : cs.map text ≠ [] := by simpa using hne
  have hclosed := Text.joined_closed "," htexts
  simpa [List.flatMap_map, text_closed] using hclosed

theorem text_ne_empty (c : StorageConstraint) : c.text ≠ "" := by
  intro h
  have hnil : c.text.toList = [] := congrArg String.toList h
  simp [text, Numeral.ofNat, Nat.toDigits_ne_nil] at hnil

end StorageConstraint

/-! ## The parameter -/

namespace Constraints

theorem findEntry_storage (c : Constraints) :
    findEntry "storage" c.parameters =
      if c.storage = [] then none
      else some (Text.joined "," (c.storage.map StorageConstraint.text)) := by
  have hblock : findEntry "storage" c.parameters =
      if Text.joined "," (c.storage.map StorageConstraint.text) = "" then none
      else some (Text.joined "," (c.storage.map StorageConstraint.text)) := by
    simp [parameters, Parameters.findEntry_append, Parameters.findEntry_nonempty,
      Parameters.findEntry_optional, Parameters.findEntry_each, Parameters.findEntry_flag]
  have hempty : Text.joined "," (c.storage.map StorageConstraint.text) = "" ↔ c.storage = [] := by
    rw [Text.joined_eq_empty (by decide), List.map_eq_nil_iff]
    refine or_iff_left fun h => ?_
    obtain ⟨s, -, htext⟩ := List.map_eq_singleton_iff.mp h
    exact s.text_ne_empty htext
  rw [hblock]
  simp only [hempty]

variable {c c' : Constraints}

/-- **Storage constraints survive being written**, unless a label or a tag holds a delimiter:
allocations with the same parameter, or both without it, want the same storage. -/
theorem storage_eq (hc : ∀ s ∈ c.storage, s.Delimited) (hc' : ∀ s ∈ c'.storage, s.Delimited)
    (h : findEntry "storage" c.parameters = findEntry "storage" c'.parameters) :
    c.storage = c'.storage := by
  rw [findEntry_storage, findEntry_storage] at h
  by_cases hne : c.storage = []
  · by_cases hne' : c'.storage = []
    · rw [hne, hne']
    · simp [hne, hne'] at h
  · by_cases hne' : c'.storage = []
    · simp [hne, hne'] at h
    · rw [if_neg hne, if_neg hne'] at h
      refine flatMap_inj StorageConstraint.closed_ne_nil StorageConstraint.closed_append_inj
        hc hc' ?_
      rw [← StorageConstraint.joined_text_closed hne,
        ← StorageConstraint.joined_text_closed hne', Option.some.inj h]

/-- Constraints on the storage and the name of a machine. -/
def storing (storage : List StorageConstraint) (hostname : String) : Constraints :=
  { wanting [] hostname with storage := storage }

/-- Labels may look like sizes, and may be missing. -/
theorem storage_eq_mixed :
    (∀ s ∈ (storing [⟨"200", 20, ["ssd", "fast"]⟩, ⟨"", 400, []⟩] "").storage, s.Delimited) ∧
    (∀ s ∈ (storing [⟨"200", 20, ["ssd", "fast"]⟩, ⟨"", 400, []⟩] "node-1").storage,
      s.Delimited) ∧
    findEntry "storage" (storing [⟨"200", 20, ["ssd", "fast"]⟩, ⟨"", 400, []⟩] "").parameters =
      findEntry "storage"
        (storing [⟨"200", 20, ["ssd", "fast"]⟩, ⟨"", 400, []⟩] "node-1").parameters ∧
    (storing [⟨"200", 20, ["ssd", "fast"]⟩, ⟨"", 400, []⟩] "").storage =
      (storing [⟨"200", 20, ["ssd", "fast"]⟩, ⟨"", 400, []⟩] "node-1").storage := by
  have hdelimited : ∀ s ∈ (storing [⟨"200", 20, ["ssd", "fast"]⟩, ⟨"", 400, []⟩] "").storage,
      s.Delimited := by
    decide
  exact ⟨hdelimited, hdelimited, rfl, storage_eq hdelimited hdelimited rfl⟩

end Constraints

end RegionClient
