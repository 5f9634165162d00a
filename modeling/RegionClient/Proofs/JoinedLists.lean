import RegionClient.Order.InterfaceChange
import RegionClient.Proofs.Texts
import RegionClient.Proofs.WrittenConstraints

set_option autoImplicit false

/-! # Lists that are sent as one text

Most lists are sent as one parameter for each item, and empty items are left out. Tags are sent as
one text with commas between them, and it is this text that is left out if it is empty: empty tags
stay in a text with others. What was sent is the list itself, and it is the list without its empty
items only if there are none, or if an empty tag is all there is.

Main statement: `JoinedList.sent_exact`.
-/

namespace RegionClient

/-! ## Sent lists -/

/-- **The lists that are sent as one text**: the key, the items, and the parameters in which they
are sent. -/
inductive JoinedList : String → List String → Parameters → Prop where
  | tags (c : Constraints) : JoinedList "tags" c.tags c.parameters
  | excludedTags (c : Constraints) : JoinedList "not_tags" c.excludedTags c.parameters
  | interfaceTags (i : NewInterface) : JoinedList "tags" i.tags i.parameters

/-- A list is sent without its empty items: there is a parameter if anything is left, and its text
is cut into what is left. -/
def SentWithoutEmpty (key : String) (items : List String) (ps : Parameters) : Prop :=
  (findEntry key ps ≠ none ↔ ∃ t ∈ items, t ≠ "") ∧
    ∀ value, findEntry key ps = some value →
      Text.split (· == ',') value = items.filter (· ≠ "")

namespace Parameters

variable {key name : String}

theorem findEntry_always (hne : key ≠ name) (value : String) :
    findEntry name (always key value) = none := by
  simp [always, findEntry, hne]

end Parameters

namespace JoinedList

variable {key : String} {items : List String} {ps : Parameters}

/-- The parameter is the text of the list, unless that is empty. -/
theorem findEntry_eq (h : JoinedList key items ps) : findEntry key ps =
    if items = [] ∨ items = [""] then none else some (Text.joined "," items) := by
  have hblock : findEntry key ps =
      if Text.joined "," items = "" then none else some (Text.joined "," items) := by
    cases h with
    | tags c | excludedTags c =>
      simp [Constraints.parameters, Parameters.findEntry_append, Parameters.findEntry_nonempty,
        Parameters.findEntry_optional, Parameters.findEntry_each, Parameters.findEntry_flag]
    | interfaceTags i =>
      simp [NewInterface.parameters, Parameters.findEntry_append, Parameters.findEntry_always,
        Parameters.findEntry_nonempty, Parameters.findEntry_optional, Parameters.findEntry_flag]
  have hcomma : "," ≠ "" := by decide
  rw [hblock]
  simp only [Text.joined_eq_empty hcomma]

/-- **What is sent of a list** whose items have no commas: nothing for an empty list and for one
empty item, and otherwise a text that is cut into all items, be they empty or not. So the empty
items are left out if there are none, or if one is all there is. -/
theorem sent_exact (h : JoinedList key items ps) (hfree : ∀ t ∈ items, ',' ∉ t.toList) :
    (findEntry key ps = none ↔ items = [] ∨ items = [""]) ∧
      (∀ value, findEntry key ps = some value → Text.split (· == ',') value = items) ∧
      (SentWithoutEmpty key items ps ↔ "" ∉ items ∨ items = [""]) := by
  have hvalue (value : String) (hfound : findEntry key ps = some value) :
      Text.split (· == ',') value = items := by
    rw [h.findEntry_eq] at hfound
    split at hfound
    · cases hfound
    · rename_i hsome
      obtain rfl := Option.some.inj hfound
      exact Text.split_joined rfl (fun hnil => hsome (.inl hnil)) hfree
  have hnone : findEntry key ps = none ↔ items = [] ∨ items = [""] := by
    rw [h.findEntry_eq]
    split
    · rename_i hsent
      exact iff_of_true rfl hsent
    · rename_i hsent
      exact iff_of_false nofun hsent
  refine ⟨hnone, hvalue, ?_⟩
  constructor
  · rintro ⟨-, hcut⟩
    by_cases hsent : items = [] ∨ items = [""]
    · rcases hsent with rfl | rfl
      · exact .inl List.not_mem_nil
      · exact .inr rfl
    · refine .inl fun hempty => ?_
      have hfound : findEntry key ps = some (Text.joined "," items) := by
        rw [h.findEntry_eq, if_neg hsent]
      -- All items are back, so none of them was left out.
      have hkept : items.filter (· ≠ "") = items := (hcut _ hfound).symm.trans (hvalue _ hfound)
      simpa using List.filter_eq_self.mp hkept "" hempty
  · rintro (hfull | rfl)
    · have hkept : items.filter (· ≠ "") = items := by
        refine List.filter_eq_self.mpr fun t ht => ?_
        simpa using fun heq : t = "" => hfull (heq ▸ ht)
      refine ⟨?_, fun value hfound => (hvalue value hfound).trans hkept.symm⟩
      rw [Ne, hnone]
      constructor
      · intro hsent
        obtain ⟨t, rest, rfl⟩ := List.exists_cons_of_ne_nil fun hnil => hsent (.inl hnil)
        exact ⟨t, List.mem_cons_self, fun heq => hfull (heq ▸ List.mem_cons_self)⟩
      · rintro ⟨t, ht, hne⟩ (rfl | rfl)
        · cases ht
        · exact hne (List.mem_singleton.mp ht)
    · refine ⟨?_, fun value hfound => ?_⟩
      · simp [hnone]
      · cases (hnone.mpr (.inr rfl)).symm.trans hfound

end JoinedList

namespace Constraints

/-- Constraints on the tags of a machine. -/
def tagged (tags : List String) : Constraints :=
  { wanting [] "" with tags := tags }

theorem sent_exact_tagged :
    (∀ t ∈ ["a", "", "b"], ',' ∉ t.toList) ∧
    (findEntry "tags" (tagged ["a", "", "b"]).parameters = none ↔
      ["a", "", "b"] = [] ∨ ["a", "", "b"] = [""]) ∧
    (∀ value, findEntry "tags" (tagged ["a", "", "b"]).parameters = some value →
      Text.split (· == ',') value = ["a", "", "b"]) ∧
    (SentWithoutEmpty "tags" ["a", "", "b"] (tagged ["a", "", "b"]).parameters ↔
      "" ∉ ["a", "", "b"] ∨ ["a", "", "b"] = [""]) := by
  have hfree : ∀ t ∈ ["a", "", "b"], ',' ∉ t.toList := by decide
  exact ⟨hfree, JoinedList.sent_exact (.tags (tagged ["a", "", "b"])) hfree⟩

/-- **Empty tags are sent**: one among others as an empty piece, and two of them as a comma. -/
theorem empty_tags_sent :
    (findEntry "tags" (tagged ["a", "", "b"]).parameters = some "a,,b" ∧
      ¬ SentWithoutEmpty "tags" ["a", "", "b"] (tagged ["a", "", "b"]).parameters) ∧
    findEntry "tags" (tagged ["", ""]).parameters = some "," ∧
      ¬ SentWithoutEmpty "tags" ["", ""] (tagged ["", ""]).parameters := by
  have hamong : findEntry "tags" (tagged ["a", "", "b"]).parameters = some "a,,b" := by decide
  have htwo : findEntry "tags" (tagged ["", ""]).parameters = some "," := by decide
  refine ⟨⟨hamong, fun h => ?_⟩, htwo, fun h => ?_⟩
  · have hcut := h.2 "a,,b" hamong
    revert hcut
    decide
  · obtain ⟨t, ht, hne⟩ := h.1.mp (by rw [htwo]; exact nofun)
    simp [hne] at ht

end Constraints

end RegionClient
