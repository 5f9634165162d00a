import RegionClient.Allocation
import RegionClient.Proofs.Interchange

set_option autoImplicit false

/-! # Undeclared members

What a document has under names that are not declared never matters, at any depth.
`Json.eraseAs` leaves it out, in the document itself and in every embedded object that a reader is
handed, and `Kind.read_eraseAs` says that this changes no outcome: neither a resource nor an error.

The argument compares two runs: a document and the erased document are interchangeable, since what
the one has under a declared name is what the other has there, apart from what is erased inside
embedded objects.
-/

namespace RegionClient

/-! ## Erasure -/

mutual

/-- The value without what is not declared, as something that is held. -/
def Json.eraseAs (h : Held) : Json → Json
  | .object entries =>
    match h with
    | .object kind => .object (eraseEntries kind entries)
    | _ => .object entries
  | .list items =>
    match h with
    | .objects kind => .list (eraseItems kind items)
    | _ => .list items
  | value => value

/-- The declared members of an object of a kind, each without what is not declared. -/
def eraseEntries (k : Kind) : List (String × Json) → List (String × Json)
  | [] => []
  | (name, value) :: rest =>
    if name ∈ k.schema.map Member.name then
      (name, value.eraseAs (k.held name)) :: eraseEntries k rest
    else eraseEntries k rest

/-- The items of a list, each as an object of a kind without what is not declared. -/
def eraseItems (k : Kind) : List Json → List Json
  | [] => []
  | u :: rest => u.eraseAs (.object k) :: eraseItems k rest

end

namespace Json

theorem eraseItems_eq (k : Kind) (items : List Json) :
    eraseItems k items = items.map (eraseAs (.object k)) := by
  induction items with
  | nil => rfl
  | cons u rest ih => rw [eraseItems, ih, List.map_cons]

theorem eraseAs_plain (u : Json) : u.eraseAs .plain = u := by
  cases u <;> rfl

theorem eraseAs_objects (k : Kind) (items : List Json) :
    (list items).eraseAs (.objects k) = list (items.map (eraseAs (.object k))) :=
  congrArg list (eraseItems_eq k items)

end Json

theorem findEntry_eraseEntries {k : Kind} {name : String}
    (hname : name ∈ k.schema.map Member.name) (entries : List (String × Json)) :
    findEntry name (eraseEntries k entries) =
      (findEntry name entries).map (Json.eraseAs (k.held name)) := by
  induction entries with
  | nil => rfl
  | cons e rest ih =>
    obtain ⟨key, value⟩ := e
    by_cases hkey : key = name
    · subst hkey
      simp [eraseEntries, findEntry, hname]
    · by_cases hdeclared : key ∈ k.schema.map Member.name
      · rw [eraseEntries, if_pos hdeclared, findEntry, findEntry, if_neg hkey, if_neg hkey, ih]
      · rw [eraseEntries, if_neg hdeclared, findEntry, if_neg hkey, ih]

/-! ## Whole documents -/

/-- What is held may stand for what is left of it, if every embedded object may. -/
theorem Held.Interchange.erased {v : Version} {h : Held}
    (hkind : ∀ kind, h.kind? = some kind →
      ∀ u, kind.Interchangeable v v u (u.eraseAs (.object kind))) (u : Json) :
    h.Interchange v v u (u.eraseAs h) := by
  cases h with
  | plain =>
    rw [Json.eraseAs_plain]
    exact .plain u
  | object kind => exact .object (hkind kind rfl u)
  | objects kind =>
    cases u with
    | list us =>
      rw [Json.eraseAs_objects]
      refine .objects (List.forall₂_map_right_iff.mpr ?_)
      exact List.forall₂_same.mpr fun u _ => hkind kind rfl u
    | _ => exact .noList kind rfl

/-- A document and what is left of it are interchangeable. -/
theorem Kind.interchangeable_eraseAs (k : Kind) (v : Version) (source : Json) :
    k.Interchangeable v v source (source.eraseAs (.object k)) := by
  induction k using slots_induction generalizing source with
  | h k ih =>
    -- Only an object is changed by erasure.
    cases source with
    | object entries =>
      have herase : (Json.object entries).eraseAs (.object k) = .object (eraseEntries k entries) :=
        rfl
      rw [herase]
      refine interchangeable_of_members (.refl v) fun m hm => ?_
      rw [findEntry_eraseEntries (List.mem_map_of_mem hm)]
      cases findEntry m.name entries with
      | none => exact .none
      | some u =>
        refine .some (.erased (fun kind hkind u => ?_) u)
        obtain ⟨s, hs, rfl⟩ := held_kind hkind
        exact ih s hs u
    | _ => exact .refl k v _

/-- **Undeclared members do not matter** to the reading of an object. -/
theorem Kind.read_eraseAs (k : Kind) (v : Version) (source : Json) :
    k.reader.read v (source.eraseAs (.object k)) = k.reader.read v source :=
  (k.interchangeable_eraseAs v source).read_eq

theorem Kind.readList_eraseAs (k : Kind) (v : Version) (source : Json) :
    k.reader.readList v (source.eraseAs (.objects k)) = k.reader.readList v source :=
  readList_alike (.refl v)
    (.erased (fun _ hkind u => Option.some.inj hkind ▸ k.interchangeable_eraseAs v u) source)

/-! ## Allocated machines -/

/-- The value without a member. -/
def Json.without (name : String) : Json → Json
  | .object entries => .object (entries.filter fun e => e.1 ≠ name)
  | value => value

/-- Where a machine has what its match document names, if there is one. -/
def Allocation.matchesIn (machine : Machine) : Option Json → Except Error Positions
  | none | some .null => .ok .empty
  | some document => (Positions.locate machine document).mapError (Error.annotate matchesField)

theorem eraseEntries_filter {k : Kind} {name : String} (hname : name ∉ k.schema.map Member.name)
    (entries : List (String × Json)) :
    eraseEntries k (entries.filter fun e => e.1 ≠ name) = eraseEntries k entries := by
  induction entries with
  | nil => rfl
  | cons e rest ih =>
    obtain ⟨key, value⟩ := e
    by_cases hkey : key = name
    · subst hkey
      rw [List.filter_cons_of_neg (by simp), eraseEntries, if_neg hname, ih]
    · rw [List.filter_cons_of_pos (by simpa using hkey), eraseEntries, eraseEntries, ih]

/-- A member that is not declared may be left out. -/
theorem Kind.read_without (k : Kind) {name : String} (hname : name ∉ k.schema.map Member.name)
    (v : Version) (source : Json) :
    k.reader.read v (source.without name) = k.reader.read v source := by
  cases source with
  | object entries =>
    have herase : (Json.object (entries.filter fun e => e.1 ≠ name)).eraseAs (.object k) =
        (Json.object entries).eraseAs (.object k) :=
      congrArg Json.object (eraseEntries_filter hname entries)
    rw [Json.without, ← k.read_eraseAs v (.object entries), ← herase, k.read_eraseAs]
  | _ => rfl

theorem Allocation.read_eq (v : Version) (source : Json) :
    read v source = (Machine.reader.read v source).bind fun machine =>
      (matchesIn machine (source.get? matchesField)).map (Allocation.mk machine) := by
  rw [read]
  cases Machine.reader.read v source with
  | error e => rfl
  | ok machine =>
    cases source.get? matchesField with
    | none => rfl
    | some document =>
      cases document with
      | null => rfl
      | _ => rfl

/-- **Undeclared members never matter**, for any kind and version, alone or in a list: a document
and the erased document give the same resource or the same error. So an allocated machine is the
machine that is read from its document, whatever that says about matches, or nothing. -/
theorem Kind.undeclared_irrelevant :
    (∀ (k : Kind) (v : Version) (source : Json),
      k.reader.read v (source.eraseAs (.object k)) = k.reader.read v source ∧
        k.reader.readList v (source.eraseAs (.objects k)) = k.reader.readList v source) ∧
    ∀ (v : Version) (source : Json),
      Allocation.read v source = (Machine.reader.read v source).bind (fun machine =>
        (Allocation.matchesIn machine (source.get? Allocation.matchesField)).map
          (Allocation.mk machine)) ∧
      Machine.reader.read v (source.without Allocation.matchesField) =
        Machine.reader.read v source := by
  refine ⟨fun k v source => ⟨k.read_eraseAs v source, k.readList_eraseAs v source⟩,
    fun v source => ⟨Allocation.read_eq v source, Kind.machine.read_without (by decide) v source⟩⟩

end RegionClient
