import RegionClient.Proofs.Readers
import RegionClient.Proofs.VersionTables

set_option autoImplicit false

/-! # How reading a list ends

A list is read in three stages, and a later stage is reached only if the earlier ones have nothing
to say against any element: the shape of the list and of all its elements, the choice of an entry
for the version, and the elements one by one. `Reader.ReadsList` has one constructor for each way
in which this ends, and `Reader.readList_iff` says that reading ends in the way that it describes.

So the first element that is no object counts before one further to the front that cannot be read,
and before a version without an entry; and without an entry not even an empty list can be read.
-/

namespace RegionClient

/-! ## Shapes -/

namespace Json

theorem firstOther_eq_some {index : Nat} {items : List Json} {p : Json × Nat} :
    firstOther index items = some p ↔ ∃ before u after, items = before ++ u :: after ∧
      (∀ w ∈ before, w.isObject = true) ∧ u.isObject = false ∧ p = (u, index + before.length) := by
  induction items generalizing index with
  | nil => simp [firstOther]
  | cons first rest ih =>
    simp only [List.cons_eq_append_iff, firstOther]
    cases hfirst : first.isObject with
    | false =>
      simp only [Bool.false_eq_true, if_false, Option.some.injEq]
      constructor
      · rintro rfl
        exact ⟨[], first, rest, .inl ⟨rfl, rfl⟩, List.forall_mem_nil _, hfirst, rfl⟩
      · rintro ⟨before, u, after, ⟨rfl, hcons⟩ | ⟨tail, rfl, -⟩, hbefore, -, rfl⟩
        · obtain ⟨rfl, -⟩ := List.cons.inj hcons
          rfl
        · have hobject := hbefore first List.mem_cons_self
          rw [hfirst] at hobject
          cases hobject
    | true =>
      rw [if_pos rfl, ih]
      constructor
      · rintro ⟨before, u, after, rfl, hbefore, hu, rfl⟩
        refine ⟨first :: before, u, after, .inr ⟨before, rfl, rfl⟩,
          List.forall_mem_cons.mpr ⟨hfirst, hbefore⟩, hu, ?_⟩
        rw [List.length_cons, Nat.add_comm before.length, Nat.add_assoc]
      · rintro ⟨before, u, after, ⟨rfl, hcons⟩ | ⟨tail, rfl, rfl⟩, hbefore, hu, rfl⟩
        · obtain ⟨rfl, -⟩ := List.cons.inj hcons
          rw [hfirst] at hu
          cases hu
        · refine ⟨tail, u, after, rfl, (List.forall_mem_cons.mp hbefore).2, hu, ?_⟩
          rw [List.length_cons, Nat.add_comm tail.length, Nat.add_assoc]

end Json

/-! ## Versions -/

namespace Reader

variable {α : Type} {r : Reader α} {v : Version}

theorem select_error {e : Error} : r.select v = .error e ↔
    (∀ entry ∈ r.table.entries, ¬ entry.1 ≤ v) ∧ e = .unsupportedVersion r.typeName v :=
  map_error.trans VersionTable.select_error

/-! ## Elements -/

/-- A list stops at an element that cannot be read, if those before it can. -/
theorem readItems_stops {name : String} {item : Json → Except Error α} {before after : List Json}
    {u : Json} {e : Error} (hbefore : ∀ w ∈ before, ∃ a, item w = .ok a) (hu : item u = .error e)
    (index : Nat) : readItems name item index (before ++ u :: after) =
      .error (e.annotate (name ++ " " ++ Numeral.ofNat (index + before.length))) := by
  induction before generalizing index with
  | nil =>
    rw [List.nil_append, readItems, hu]
    rfl
  | cons w rest ih =>
    obtain ⟨⟨a, hw⟩, hrest⟩ := List.forall_mem_cons.mp hbefore
    rw [List.cons_append, readItems, hw, ih hrest (index + 1), List.length_cons, Nat.add_right_comm,
      Nat.add_assoc]
    rfl

/-! ## The ways in which reading ends -/

/-- What reading a document as a list ends in. -/
inductive ReadsList (r : Reader α) (v : Version) : Json → Except Error (List α) → Prop where
  /-- The document is no list. -/
  | noList {source : Json} (hlist : source.list? = none) :
      ReadsList r v source (.error (r.outerError (.mismatch [] "list" source)))
  /-- An element is no object, and it is the first such. -/
  | noObject {before after : List Json} {u : Json} (hbefore : ∀ w ∈ before, w.isObject = true)
      (hu : u.isObject = false) : ReadsList r v (.list (before ++ u :: after))
        (.error (r.outerError (.mismatch [.item before.length] "map" u)))
  /-- There is no entry for the version, or one before it. -/
  | unsupported {items : List Json} (hobjects : ∀ w ∈ items, w.isObject = true)
      (hversions : ∀ entry ∈ r.table.entries, ¬ entry.1 ≤ v) :
      ReadsList r v (.list items) (.error (.unsupportedVersion r.typeName v))
  /-- All elements are read, each to the value in its place. -/
  | all {items : List Json} {read : Version → Json → Except Error α} {ys : List α}
      (hobjects : ∀ w ∈ items, w.isObject = true) (hselect : r.select v = .ok read)
      (hitems : List.Forall₂ (fun u y => read v u = .ok y) items ys) :
      ReadsList r v (.list items) (.ok ys)
  /-- An element is the first that fails, with a fault of the document, which is reported inside the
  position. -/
  | unreadable {before after : List Json} {u : Json} {read : Version → Json → Except Error α}
      {fault : ReadFault} (hobjects : ∀ w ∈ before ++ u :: after, w.isObject = true)
      (hselect : r.select v = .ok read) (hbefore : ∀ w ∈ before, ∃ y, read v w = .ok y)
      (hu : read v u = .error (.deserialization fault)) :
      ReadsList r v (.list (before ++ u :: after)) (.error (.deserialization
        (.inside (r.typeName ++ " " ++ Numeral.ofNat before.length) fault)))
  /-- An element is the first that fails, in another way, which is reported as it is. -/
  | failed {before after : List Json} {u : Json} {read : Version → Json → Except Error α}
      {e : Error} (hobjects : ∀ w ∈ before ++ u :: after, w.isObject = true)
      (hselect : r.select v = .ok read) (hbefore : ∀ w ∈ before, ∃ y, read v w = .ok y)
      (hu : read v u = .error e) (he : ∀ fault, e ≠ .deserialization fault) :
      ReadsList r v (.list (before ++ u :: after)) (.error e)

/-- Reading stops at the first element that fails, if nothing is wrong with shapes and version. -/
theorem readList_of_failing {before after : List Json} {u : Json}
    {read : Version → Json → Except Error α} {e : Error}
    (hobjects : ∀ w ∈ before ++ u :: after, w.isObject = true) (hselect : r.select v = .ok read)
    (hbefore : ∀ w ∈ before, ∃ y, read v w = .ok y) (hu : read v u = .error e) :
    r.readList v (.list (before ++ u :: after)) =
      .error (e.annotate (r.typeName ++ " " ++ Numeral.ofNat before.length)) := by
  have hstops : readItems r.typeName (read v) 0 (before ++ u :: after) =
      .error (e.annotate (r.typeName ++ " " ++ Numeral.ofNat (0 + before.length))) :=
    readItems_stops hbefore hu 0
  rw [Nat.zero_add] at hstops
  rw [readList_of_objects r hobjects, hselect, ← hstops]
  rfl

/-- Reading ends in what is described. -/
theorem ReadsList.readList_eq {source : Json} {outcome : Except Error (List α)}
    (h : r.ReadsList v source outcome) : r.readList v source = outcome := by
  cases h with
  | noList hlist =>
    cases source with
    | list items => cases hlist
    | _ => rfl
  | @noObject before after u hbefore hu =>
    have hother : Json.firstOther 0 (before ++ u :: after) = some (u, 0 + before.length) :=
      Json.firstOther_eq_some.mpr ⟨before, u, after, rfl, hbefore, hu, rfl⟩
    rw [readList, Json.expectObjects_list, hother, Nat.zero_add]
    rfl
  | unsupported hobjects hversions =>
    rw [readList_of_objects r hobjects, select_error.mpr ⟨hversions, rfl⟩]
    rfl
  | all hobjects hselect hitems =>
    rw [readList_of_objects r hobjects, hselect]
    exact readItems_ok.mpr (mapM_eq_ok.mpr hitems)
  | unreadable hobjects hselect hbefore hu =>
    exact readList_of_failing hobjects hselect hbefore hu
  | @failed before after u read e hobjects hselect hbefore hu he =>
    rw [readList_of_failing hobjects hselect hbefore hu]
    cases e with
    | deserialization fault => exact absurd rfl (he fault)
    | _ => rfl

/-- One of the descriptions fits. -/
theorem exists_readsList (r : Reader α) (v : Version) (source : Json) :
    ∃ outcome, r.ReadsList v source outcome := by
  cases hlist : source.list? with
  | none => exact ⟨_, .noList hlist⟩
  | some items =>
    obtain rfl : source = .list items := by
      cases source with
      | list us => exact congrArg _ (Option.some.inj hlist)
      | _ => cases hlist
    cases hother : Json.firstOther 0 items with
    | some p =>
      obtain ⟨before, u, after, rfl, hbefore, hu, -⟩ := Json.firstOther_eq_some.mp hother
      exact ⟨_, .noObject hbefore hu⟩
    | none =>
      have hobjects := Json.firstOther_eq_none.mp hother
      cases hselect : r.select v with
      | error e => exact ⟨_, .unsupported hobjects (select_error.mp hselect).1⟩
      | ok read =>
        cases hitems : readItems r.typeName (read v) 0 items with
        | ok ys =>
          have hys := mapM_eq_ok.mp (readItems_ok.mp hitems)
          exact ⟨_, .all hobjects hselect hys⟩
        | error e =>
          obtain ⟨before, u, after, e', rfl, hbefore, hu, -⟩ := readItems_error hitems
          cases e' with
          | deserialization fault => exact ⟨_, .unreadable hobjects hselect hbefore hu⟩
          | _ => exact ⟨_, .failed hobjects hselect hbefore hu fun fault h => nomatch h⟩

/-- **Reading a list** ends in what `ReadsList` describes, and in nothing else. -/
theorem readList_iff (r : Reader α) (v : Version) (source : Json)
    (outcome : Except Error (List α)) :
    r.readList v source = outcome ↔ r.ReadsList v source outcome := by
  constructor
  · rintro rfl
    obtain ⟨outcome, h⟩ := r.exists_readsList v source
    rw [h.readList_eq]
    exact h
  · exact ReadsList.readList_eq

/-- The last element is no object, which counts before the others and before the missing entry. -/
example : (Reader.mk ⟨"thing", []⟩ : Reader Json).readList .v2_0 (.list [.object [], .null]) =
    .error (.deserialization (.inside "thing base schema check failed"
      (.schema (.mismatch [.item 1] "map" .null)))) :=
  rfl

end Reader

end RegionClient
