import RegionClient.Proofs.Resolution

set_option autoImplicit false

/-! # Empty matches

A match document can have labels without ids. They are kept when it is resolved, so matches that
hold nothing that anyone could look up need not be the matches without labels, for which they are
told to be empty. The two are the same except for documents that list labels but no ids
(`Matches.isEmpty_exact`).
-/

namespace RegionClient

/-! ## Labels and ids -/

namespace Listing

/-- No labels are listed. -/
def NoLabels (listing : Listing) : Prop :=
  listing.interfaces = [] ∧ listing.storage = []

/-- No ids are listed, though there may be labels. -/
def NoIds (listing : Listing) : Prop :=
  (∀ p ∈ listing.interfaces, p.2 = []) ∧ ∀ p ∈ listing.storage, p.2 = []

theorem NoLabels.noIds {listing : Listing} (h : listing.NoLabels) : listing.NoIds := by
  obtain ⟨hinterfaces, hstorage⟩ := h
  rw [NoIds, hinterfaces, hstorage]
  exact ⟨List.forall_mem_nil _, List.forall_mem_nil _⟩

end Listing

section Labels

variable {α β : Type}

/-- Every list in a map is empty exactly if nothing is found in it under any key. -/
theorem SortedMap.forall_getD_nil_iff (m : SortedMap (List α)) :
    (∀ key, (m.get? key).getD [] = []) ↔ ∀ e ∈ m.entries, e.2 = [] := by
  constructor
  · rintro h ⟨key, as⟩ he
    have has := h key
    rwa [(m.mem_entries key as).mp he] at has
  · intro h key
    cases hkey : m.get? key with
    | none => rfl
    | some as => exact h (key, as) ((m.mem_entries key as).mpr hkey)

variable {find : β → Option α} {found : List (String × List α)} {labels : List (String × List β)}

/-- What is found has as many labels as were looked for. -/
theorem found_eq_nil_iff (h : found.map (fun e => (e.1, e.2.map some)) =
    labels.map fun p => (p.1, p.2.map find)) : found = [] ↔ labels = [] := by
  rw [← List.map_eq_nil_iff, h, List.map_eq_nil_iff]

/-- Under each of them is as much as there are ids. -/
theorem forall_found_nil_iff (h : found.map (fun e => (e.1, e.2.map some)) =
    labels.map fun p => (p.1, p.2.map find)) :
    (∀ e ∈ found, e.2 = []) ↔ ∀ p ∈ labels, p.2 = [] := by
  calc (∀ e ∈ found, e.2 = [])
      ↔ ∀ q ∈ found.map fun e => (e.1, e.2.map some), q.2 = [] := by
        simp only [List.forall_mem_map, List.map_eq_nil_iff]
    _ ↔ ∀ q ∈ labels.map fun p => (p.1, p.2.map find), q.2 = [] := by rw [h]
    _ ↔ ∀ p ∈ labels, p.2 = [] := by simp only [List.forall_mem_map, List.map_eq_nil_iff]

end Labels

/-- Labels ascend in a document if the keys of all its members do. -/
theorem Json.labelsAscend_of_entries {entries : List (String × Json)}
    (h : ∀ e ∈ entries, ∀ labels, e.2 = .object labels → Ascending labels) :
    (Json.object entries).LabelsAscend := by
  intro field labels hfield
  exact h (field, .object labels) (mem_of_findEntry hfield) labels rfl

/-! ## Matches of a document -/

namespace Matches

/-- **Nothing matched**: whatever label one looks under, there is nothing. -/
def NothingMatched (found : Matches) : Prop :=
  ∀ label, found.interfacesFor label = [] ∧ found.storageFor label = []

theorem nothingMatched_iff (found : Matches) :
    found.NothingMatched ↔
      (∀ e ∈ found.interfaces.entries, e.2 = []) ∧ ∀ e ∈ found.storage.entries, e.2 = [] := by
  rw [← SortedMap.forall_getD_nil_iff, ← SortedMap.forall_getD_nil_iff]
  exact forall_and

theorem isEmpty_iff (found : Matches) :
    found.isEmpty = true ↔ found.interfaces.entries = [] ∧ found.storage.entries = [] := by
  rw [isEmpty, Bool.and_eq_true]
  exact and_congr List.isEmpty_iff List.isEmpty_iff

variable {machine : Machine} {source : Json} {found : Matches}

/-- What is found is what the document lists. -/
theorem exact_of_resolve (h : resolve machine source = .ok found) (hlabels : source.LabelsAscend) :
    ∃ listing, Listing.of? source = some listing ∧ listing.Exact machine found := by
  cases hlisting : Listing.of? source with
  | none =>
      obtain ⟨e, he⟩ := resolve_unlisted machine hlisting
      cases h.symm.trans he
  | some listing =>
      obtain ⟨his, hss⟩ := Listing.of?_eq_some hlisting
      rcases resolve_cases machine hlisting with ⟨found', hfound, -, hexact⟩ | ⟨e, he, -⟩
      · obtain rfl : found = found' := Except.ok.inj (h.symm.trans hfound)
        exact ⟨listing, rfl, hexact (ascending_listedLabels? his (hlabels "interfaces"))
          (ascending_listedLabels? hss (hlabels "storage"))⟩
      · cases h.symm.trans he

/-- **Matches are told to be empty if the document lists no labels**, and nothing matched if it
lists no ids. So matches that are told to be empty hold nothing, and those that hold nothing are
told to be empty unless there are labels and all of them are without ids. -/
theorem isEmpty_exact (h : resolve machine source = .ok found) (hlabels : source.LabelsAscend) :
    ∃ listing, Listing.of? source = some listing ∧
      (found.isEmpty = true ↔ listing.NoLabels) ∧
      (found.NothingMatched ↔ listing.NoIds) ∧
      (found.isEmpty = true → found.NothingMatched) ∧
      ((found.isEmpty = true ↔ found.NothingMatched) ↔ listing.NoLabels ∨ ¬ listing.NoIds) := by
  obtain ⟨listing, hlisting, hinterfaces, hstorage⟩ := exact_of_resolve h hlabels
  have hempty : found.isEmpty = true ↔ listing.NoLabels := by
    rw [isEmpty_iff, found_eq_nil_iff hinterfaces, found_eq_nil_iff hstorage]
    rfl
  have hnothing : found.NothingMatched ↔ listing.NoIds := by
    rw [nothingMatched_iff, forall_found_nil_iff hinterfaces, forall_found_nil_iff hstorage]
    rfl
  refine ⟨listing, hlisting, hempty, hnothing, ?_, ?_⟩
  · rw [hempty, hnothing]
    exact Listing.NoLabels.noIds
  · rw [hempty, hnothing]
    constructor
    · intro hiff
      by_cases hnoIds : listing.NoIds
      · exact .inl (hiff.mpr hnoIds)
      · exact .inr hnoIds
    · rintro (hnone | hsome)
      · exact iff_of_true hnone hnone.noIds
      · exact iff_of_false (fun hnone => hsome hnone.noIds) hsome

theorem isEmpty_exact_twin :
    ∃ found, resolve twinMachine twinMatches = .ok found ∧ twinMatches.LabelsAscend ∧
      ∃ listing, Listing.of? twinMatches = some listing ∧
        (found.isEmpty = true ↔ listing.NoLabels) ∧ (found.NothingMatched ↔ listing.NoIds) := by
  have hlabels : twinMatches.LabelsAscend := by
    refine Json.labelsAscend_of_entries (List.forall_mem_cons.mpr ⟨?_, ?_⟩)
    · rintro labels ⟨⟩
      exact ascending_iff.mpr (by decide)
    · refine List.forall_mem_singleton.mpr ?_
      rintro labels ⟨⟩
      exact ascending_iff.mpr (by decide)
  obtain ⟨found, hfound⟩ : ∃ found, resolve twinMachine twinMatches = .ok found := ⟨_, rfl⟩
  obtain ⟨listing, hlisting, hempty, hnothing, -⟩ := isEmpty_exact hfound hlabels
  exact ⟨found, hfound, hlabels, listing, hlisting, hempty, hnothing⟩

/-- **A label without ids is enough not to be empty.** -/
theorem not_isEmpty_of_label :
    ∃ found, resolve twinMachine (.object [("interfaces", .object [("db", .null)])]) = .ok found ∧
      found.NothingMatched ∧ found.isEmpty = false := by
  refine ⟨_, rfl, (nothingMatched_iff _).mpr ⟨?_, ?_⟩, rfl⟩
  · exact List.forall_mem_singleton.mpr rfl
  · exact List.forall_mem_nil _

end Matches

end RegionClient
