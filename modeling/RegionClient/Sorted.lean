set_option autoImplicit false

/-! # Maps and sets in ascending order

Maps from texts, and sets of texts, kept as lists in ascending order of code points. Each map has
one such list, so two maps with the same entries are equal.

`SortedMap.get?_insert` and `SortedMap.get?_empty` say what a map holds, and `SortedMap.ext_get?`
that nothing else is kept of it.
-/

namespace RegionClient

/-! ## Entries -/

/-- Puts an entry where its key belongs, in place of an entry with the same key. -/
def insertEntry {α : Type} (key : String) (value : α) :
    List (String × α) → List (String × α)
  | [] => [(key, value)]
  | e :: rest =>
    if key < e.1 then (key, value) :: e :: rest
    else if key = e.1 then (key, value) :: rest
    else e :: insertEntry key value rest

/-- The first value under a key. -/
def findEntry {α : Type} (key : String) : List (String × α) → Option α
  | [] => none
  | e :: rest => if e.1 = key then some e.2 else findEntry key rest

/-- Keys ascend, so that each occurs once. -/
def Ascending {α : Type} (entries : List (String × α)) : Prop :=
  entries.Pairwise fun a b => a.1 < b.1

private theorem lt_of_not_lt_of_ne {a b : String} (h : ¬ a < b) (hne : ¬ a = b) : b < a := by
  rcases String.le_total a b with hle | hle
  · exact absurd (String.le_antisymm hle (String.not_lt.1 h)) hne
  · exact Std.lt_of_le_of_ne hle (Ne.symm hne)

theorem mem_insertEntry {α : Type} {key : String} {value : α} {e : String × α}
    {entries : List (String × α)} (h : e ∈ insertEntry key value entries) :
    e = (key, value) ∨ e ∈ entries := by
  induction entries with
  | nil => exact Or.inl (by simpa [insertEntry] using h)
  | cons first rest ih =>
    simp only [insertEntry] at h
    split at h
    · simpa using h
    · split at h
      · rcases List.mem_cons.1 h with h | h
        · exact Or.inl h
        · exact Or.inr (List.mem_cons_of_mem _ h)
      · rcases List.mem_cons.1 h with h | h
        · exact Or.inr (h ▸ List.mem_cons_self)
        · rcases ih h with h | h
          · exact Or.inl h
          · exact Or.inr (List.mem_cons_of_mem _ h)

theorem ascending_insertEntry {α : Type} (key : String) (value : α)
    {entries : List (String × α)} (h : Ascending entries) :
    Ascending (insertEntry key value entries) := by
  induction entries with
  | nil => simp [insertEntry, Ascending]
  | cons first rest ih =>
    obtain ⟨hfirst, hrest⟩ := List.pairwise_cons.1 h
    simp only [insertEntry]
    split
    · rename_i hlt
      refine List.pairwise_cons.2 ⟨fun e he => ?_, h⟩
      rcases List.mem_cons.1 he with rfl | he
      · exact hlt
      · exact String.lt_trans hlt (hfirst e he)
    · rename_i hnlt
      split
      · rename_i heq
        exact List.pairwise_cons.2 ⟨fun e he => heq ▸ hfirst e he, hrest⟩
      · rename_i hne
        refine List.pairwise_cons.2 ⟨fun e he => ?_, ih hrest⟩
        rcases mem_insertEntry he with rfl | he
        · exact lt_of_not_lt_of_ne hnlt hne
        · exact hfirst e he

/-- Nothing but the keys matters. -/
theorem ascending_iff {α : Type} {entries : List (String × α)} :
    Ascending entries ↔ (entries.map Prod.fst).Pairwise (· < ·) :=
  List.pairwise_map.symm

theorem ascending_map {α β : Type} (f : α → β) {entries : List (String × α)}
    (h : Ascending entries) : Ascending (entries.map fun e => (e.1, f e.2)) := by
  rw [ascending_iff, List.map_map]
  exact ascending_iff.1 h

theorem findEntry_insertEntry {α : Type} (key name : String) (value : α)
    (entries : List (String × α)) :
    findEntry name (insertEntry key value entries) =
      if key = name then some value else findEntry name entries := by
  induction entries with
  | nil => simp [insertEntry, findEntry]
  | cons first rest ih =>
    simp only [insertEntry]
    split
    · simp [findEntry]
    · split
      · rename_i heq
        by_cases h : key = name
        · simp [findEntry, h]
        · have : ¬ first.1 = name := fun h' => h (heq.trans h')
          simp [findEntry, h, this]
      · rename_i hne
        simp only [findEntry, ih]
        by_cases h : first.1 = name
        · have : ¬ key = name := fun h' => hne (h'.trans h.symm)
          simp [h, this]
        · simp [h]

theorem mem_of_findEntry {α : Type} {key : String} {value : α} {entries : List (String × α)}
    (h : findEntry key entries = some value) : (key, value) ∈ entries := by
  induction entries with
  | nil => cases h
  | cons first rest ih =>
    rw [findEntry] at h
    split at h
    · rename_i hkey
      obtain rfl := Option.some.inj h
      rw [← hkey]
      exact List.mem_cons_self
    · exact List.mem_cons_of_mem first (ih h)

/-- Where keys ascend, every entry is the one that is found under its key. -/
theorem findEntry_eq_some {α : Type} {key : String} {value : α} {entries : List (String × α)}
    (h : Ascending entries) : findEntry key entries = some value ↔ (key, value) ∈ entries := by
  refine ⟨mem_of_findEntry, fun hmem => ?_⟩
  induction entries with
  | nil => cases hmem
  | cons first rest ih =>
    obtain ⟨hfirst, hrest⟩ := List.pairwise_cons.1 h
    rcases List.mem_cons.1 hmem with rfl | hmem
    · rw [findEntry, if_pos rfl]
    · have hlt : first.1 < key := hfirst (key, value) hmem
      have hne : ¬ first.1 = key := fun heq => String.lt_irrefl key (heq ▸ hlt)
      rw [findEntry, if_neg hne]
      exact ih hrest hmem

theorem insertEntry_last {α : Type} {key : String} {value : α} {entries : List (String × α)}
    (h : ∀ e ∈ entries, e.1 < key) : insertEntry key value entries = entries ++ [(key, value)] := by
  induction entries with
  | nil => rfl
  | cons first rest ih =>
    have hfirst := h first List.mem_cons_self
    have hne : ¬ key = first.1 := fun heq => String.lt_irrefl key (heq ▸ hfirst)
    rw [insertEntry, if_neg (String.lt_asymm hfirst), if_neg hne,
      ih fun e he => h e (List.mem_cons_of_mem _ he), List.cons_append]

/-! ## Maps -/

/-- A map from texts. -/
structure SortedMap (α : Type) where
  entries : List (String × α)
  ascending : Ascending entries
  deriving DecidableEq

namespace SortedMap

variable {α : Type}

/-- The map without entries. -/
def empty : SortedMap α :=
  ⟨[], List.Pairwise.nil⟩

instance : Inhabited (SortedMap α) :=
  ⟨empty⟩

/-- The map with one more entry; a key that is there already takes the new value. -/
def insert (m : SortedMap α) (key : String) (value : α) : SortedMap α :=
  ⟨insertEntry key value m.entries, ascending_insertEntry key value m.ascending⟩

/-- The value under a key. -/
def get? (m : SortedMap α) (key : String) : Option α :=
  findEntry key m.entries

/-- The map of a list of entries; of two with one key the later counts. -/
def ofList (entries : List (String × α)) : SortedMap α :=
  entries.foldl (fun m e => m.insert e.1 e.2) empty

/-- The map with a function of each value under its key. -/
def map {β : Type} (f : α → β) (m : SortedMap α) : SortedMap β :=
  ⟨m.entries.map fun e => (e.1, f e.2), ascending_map f m.ascending⟩

/-- The keys, ascending. -/
def keys (m : SortedMap α) : List String :=
  m.entries.map Prod.fst

/-- Whether the map has no entry. -/
def isEmpty (m : SortedMap α) : Bool :=
  m.entries.isEmpty

@[simp] theorem get?_empty (key : String) : (empty : SortedMap α).get? key = none :=
  rfl

@[simp] theorem get?_insert (m : SortedMap α) (key name : String) (value : α) :
    (m.insert key value).get? name = if key = name then some value else m.get? name :=
  findEntry_insertEntry key name value m.entries

/-- The entries of a map are what it holds. -/
theorem mem_entries (m : SortedMap α) (key : String) (value : α) :
    (key, value) ∈ m.entries ↔ m.get? key = some value :=
  (findEntry_eq_some m.ascending).symm

theorem ext {m m' : SortedMap α} (h : m.entries = m'.entries) : m = m' := by
  cases m
  cases m'
  cases h
  rfl

/-- A map is what it holds. -/
theorem ext_get? {m m' : SortedMap α} (h : ∀ key, m.get? key = m'.get? key) : m = m' := by
  have hmem : ∀ e, e ∈ m.entries ↔ e ∈ m'.entries := by
    rintro ⟨key, value⟩
    rw [m.mem_entries, m'.mem_entries, h key]
  have hnodup (m : SortedMap α) : m.entries.Nodup := by
    refine List.Pairwise.imp ?_ m.ascending
    rintro a b (hlt : a.1 < b.1) rfl
    exact String.lt_irrefl a.1 hlt
  have hperm : m.entries.Perm m'.entries :=
    (List.perm_ext_iff_of_nodup (hnodup m) (hnodup m')).mpr hmem
  refine ext (hperm.eq_of_pairwise ?_ m.ascending m'.ascending)
  intro a b _ _ hab hba
  exact absurd hab (String.lt_asymm hba)

theorem entries_foldl_insert {m : SortedMap α} {entries : List (String × α)}
    (h : Ascending (m.entries ++ entries)) :
    (entries.foldl (fun m e => m.insert e.1 e.2) m).entries = m.entries ++ entries := by
  induction entries generalizing m with
  | nil => exact (List.append_nil _).symm
  | cons e rest ih =>
    have hbefore : ∀ f ∈ m.entries, f.1 < e.1 := fun f hf =>
      (List.pairwise_append.1 h).2.2 f hf e List.mem_cons_self
    have hinsert : (m.insert e.1 e.2).entries = m.entries ++ [e] := insertEntry_last hbefore
    rw [List.foldl_cons, ih (by rwa [hinsert, List.append_assoc]), hinsert, List.append_assoc]
    rfl

@[simp] theorem entries_map {β : Type} (f : α → β) (m : SortedMap α) :
    (m.map f).entries = m.entries.map fun e => (e.1, f e.2) :=
  rfl

/-- A map is the map of its entries. -/
@[simp] theorem ofList_entries (m : SortedMap α) : ofList m.entries = m :=
  ext (entries_foldl_insert m.ascending)

end SortedMap

/-! ## Sets -/

/-- A set of texts. -/
structure SortedSet where
  toMap : SortedMap Unit
  deriving DecidableEq

namespace SortedSet

/-- The set of a list of texts. -/
def ofList (items : List String) : SortedSet :=
  ⟨SortedMap.ofList (items.map fun item => (item, ()))⟩

/-- The members, ascending. -/
def toList (s : SortedSet) : List String :=
  s.toMap.keys

/-- Whether a text is a member. -/
def contains (s : SortedSet) (item : String) : Bool :=
  (s.toMap.get? item).isSome

/-- The set without members. -/
def empty : SortedSet :=
  ⟨SortedMap.empty⟩

instance : Inhabited SortedSet :=
  ⟨empty⟩

/-- A set is the set of its members. -/
@[simp] theorem ofList_toList (s : SortedSet) : ofList s.toList = s := by
  have hentries : s.toList.map (fun item => (item, ())) = s.toMap.entries := by
    rw [toList, SortedMap.keys, List.map_map]
    exact List.map_id _
  rw [ofList, hentries, SortedMap.ofList_entries]

end SortedSet

end RegionClient
