import RegionClient.Proofs.Erasure
import RegionClient.Proofs.RoundTrip

set_option autoImplicit false

/-! # Resolution of matches

What a match document names is found on the machine as the machine itself would find it, id by id:
nothing is lost, reordered or taken for something else, though ids are kept as positions in between.

The document is read a second time, without checks: `Listing.of?` has the ids under each label, if
the document has the declared shape. Positions are related to elements by two facts about a single
id: where it is found there is something, and that is what the machine finds under the id
(`Machine.interface?_eq`, `Machine.blockDevice?_eq`). `Matches.resolve_cases` puts this together for
all ids of a document: either all are found, or there is a first one that is not.
-/

namespace RegionClient

/-! ## What a document lists -/

/-- The ids in the value under a label: null has none, and each item of a list can be cut to one. -/
def listedIds? : Json → Option (List Int64)
  | .null => some []
  | .list items => items.mapM fun u => (Checker.forcedInt? u).map Int64.ofInt
  | _ => none

/-- The ids under each label of a member. There are no labels without the member. -/
def listedLabels? : Option Json → Option (List (String × List Int64))
  | none => some []
  | some (.object entries) => entries.mapM fun e => (listedIds? e.2).map fun ids => (e.1, ids)
  | some _ => none

/-- Ids under labels, for interfaces and for block devices. -/
structure Listing where
  interfaces : List (String × List Int64)
  storage : List (String × List Int64)

/-- What a match document lists, if it has the declared shape. -/
def Listing.of? : Json → Option Listing
  | .object entries => do
    let interfaces ← listedLabels? (findEntry "interfaces" entries)
    let storage ← listedLabels? (findEntry "storage" entries)
    return ⟨interfaces, storage⟩
  | _ => none

theorem Listing.of?_eq_some {source : Json} {listing : Listing}
    (h : Listing.of? source = some listing) :
    listedLabels? (source.get? "interfaces") = some listing.interfaces ∧
      listedLabels? (source.get? "storage") = some listing.storage := by
  cases source with
  | object entries =>
    obtain ⟨is, his, h⟩ := Option.bind_eq_some_iff.mp h
    obtain ⟨ss, hss, h⟩ := Option.bind_eq_some_iff.mp h
    obtain rfl := Option.some.inj h
    exact ⟨his, hss⟩
  | _ => cases h

/-! ## What a check leaves of it -/

theorem toOption_map {ε α β : Type} (f : α → β) (x : Except ε α) :
    (x.map f).toOption = x.toOption.map f := by
  cases x <;> rfl

theorem toOption_eq_some {ε α : Type} {x : Except ε α} {a : α} :
    x.toOption = some a ↔ x = .ok a := by
  cases x <;> simp [Except.toOption]

namespace Positions

open Checker

/-- The ids under labels in a checked member. -/
def checkedLabels (found : Option Json) : List (String × List Int64) :=
  (((found.filter fun u => !u.isNull).bind Json.object?).getD []).map fun e => (e.1, idsIn e.2)

theorem labelledIds_eq {record : Record} {field : String} {found : Option Json}
    (h : record.find field = .ok found) : labelledIds record field = .ok (checkedLabels found) := by
  rw [labelledIds, Record.optValue_ok h]
  rfl

theorem coerceItems_ids (path : Path) (index : Nat) (items : List Json) :
    (coerceItems (coerceAt .forcedInt) path index items).toOption.map
        (fun ws => ws.filterMap Json.int64?) =
      items.mapM fun u => (forcedInt? u).map Int64.ofInt := by
  induction items generalizing index with
  | nil => rfl
  | cons u rest ih =>
    rw [List.mapM_cons, ← ih (index + 1), coerceItems, coerceAt]
    cases hu : forcedInt? u with
    | none => rfl
    | some n =>
      have hn : Json.int64? (.integer n) = some (Int64.ofInt n) := if_pos (forcedInt?_range hu)
      cases coerceItems (coerceAt .forcedInt) path (index + 1) rest with
      | error fault => rfl
      | ok ws =>
        show some ((Json.integer n :: ws).filterMap Json.int64?) =
          some (Int64.ofInt n :: ws.filterMap Json.int64?)
        rw [List.filterMap_cons_some hn]

theorem toOption_coerceAt_nullable {c : Checker} {u : Json} (hne : u ≠ .null) (path : Path) :
    (coerceAt (.nullable c) path u).toOption = (coerceAt c path u).toOption := by
  refine Option.ext fun w => ?_
  rw [toOption_eq_some, toOption_eq_some]
  exact ⟨coerceAt_nullable hne, coerceAt_nullable_of hne⟩

/-- The value under a label is accepted if it lists ids, and these are the ones that are left. -/
theorem coerceAt_ids (path : Path) (u : Json) :
    (coerceAt (.nullable (.list .forcedInt)) path u).toOption.map idsIn = listedIds? u := by
  cases u with
  | null => rfl
  | list items =>
    rw [toOption_coerceAt_nullable (by simp), coerceAt, toOption_map, listedIds?,
      ← coerceItems_ids path 0 items, Option.map_map]
    rfl
  | _ =>
    rw [toOption_coerceAt_nullable (by simp)]
    rfl

theorem coerceEntries_ids (path : Path) (entries : List (String × Json)) :
    (coerceEntries (coerceAt (.nullable (.list .forcedInt))) path entries).toOption.map
        (fun es => es.map fun e => (e.1, idsIn e.2)) =
      entries.mapM fun e => (listedIds? e.2).map fun ids => (e.1, ids) := by
  induction entries with
  | nil => rfl
  | cons e rest ih =>
    obtain ⟨label, u⟩ := e
    rw [List.mapM_cons, ← ih, ← coerceAt_ids (path ++ [.member label]) u, coerceEntries]
    cases coerceAt (.nullable (.list .forcedInt)) (path ++ [.member label]) u with
    | error fault => rfl
    | ok w =>
      cases coerceEntries (coerceAt (.nullable (.list .forcedInt))) path rest <;> rfl

/-- A member settles if it lists ids under labels, and these are the ones that are left. -/
theorem settle_labels (field : String) (found : Option Json) :
    (Member.settle ⟨field, labelsChecker, .optional⟩ [] found).toOption.map checkedLabels =
      listedLabels? found := by
  cases found with
  | none => rfl
  | some u =>
    have hsettle : Member.settle ⟨field, labelsChecker, .optional⟩ [] (some u) =
        (coerceAt labelsChecker [.member field] u).map some := rfl
    rw [hsettle, toOption_map]
    cases u with
    | object entries =>
      rw [labelsChecker, coerceAt, toOption_map, listedLabels?,
        ← coerceEntries_ids [.member field] entries, Option.map_map, Option.map_map]
      rfl
    | _ => rfl

/-- **The check** accepts a match document if it lists ids, and these are the ones that are left. -/
theorem listing_of_check {source : Json} {record : Record}
    (h : schema.check source = .ok record) :
    ∃ listing, Listing.of? source = some listing ∧
      labelledIds record "interfaces" = .ok listing.interfaces ∧
        labelledIds record "storage" = .ok listing.storage := by
  cases source with
  | object entries =>
    have hholds := Schema.check_holds (by decide) h
    have hlabels (field : String) (hfield : ⟨field, labelsChecker, .optional⟩ ∈ schema) :
        ∃ labels, listedLabels? (findEntry field entries) = some labels ∧
          labelledIds record field = .ok labels := by
      obtain ⟨w, hw, hfind⟩ := hholds _ hfield
      have hsettle : Member.settle ⟨field, labelsChecker, .optional⟩ [] (findEntry field entries) =
          .ok w := hw
      refine ⟨checkedLabels w, ?_, labelledIds_eq hfind⟩
      rw [← settle_labels field, hsettle]
      rfl
    obtain ⟨is, his, hinterfaces⟩ := hlabels "interfaces" List.mem_cons_self
    obtain ⟨ss, hss, hstorage⟩ := hlabels "storage" (List.mem_cons_of_mem _ List.mem_cons_self)
    refine ⟨⟨is, ss⟩, ?_, hinterfaces, hstorage⟩
    rw [Listing.of?, his, hss]
    rfl
  | _ => cases h

theorem check_of_listing {source : Json} {listing : Listing}
    (h : Listing.of? source = some listing) : ∃ record, schema.check source = .ok record := by
  cases source with
  | object entries =>
    obtain ⟨his, hss⟩ := Listing.of?_eq_some h
    have hsettles {field : String} {labels : List (String × List Int64)}
        (hlabels : listedLabels? (findEntry field entries) = some labels) :
        ∃ w, Member.settle ⟨field, labelsChecker, .optional⟩ [] (findEntry field entries) =
          .ok w := by
      rw [← settle_labels field] at hlabels
      obtain ⟨w, hw, -⟩ := Option.map_eq_some_iff.mp hlabels
      exact ⟨w, toOption_eq_some.mp hw⟩
    obtain ⟨values, hvalues⟩ : ∃ values, checkMembers schema [] entries .empty = .ok values :=
      checkMembers_ok (List.forall_mem_cons.mpr
        ⟨hsettles his, List.forall_mem_singleton.mpr (hsettles hss)⟩)
    exact ⟨_, congrArg (Except.map (Record.mk (schema.map Member.name))) hvalues⟩
  | _ => cases h

end Positions

/-! ## Ids that are found -/

section Finding

variable {α β : Type} {find : Int64 → Option α} {ids : List Int64}
  {labels : List (String × List Int64)}

/-- Every id under labels finds something. -/
def AllFound (find : Int64 → Option α) (labels : List (String × List Int64)) : Prop :=
  ∀ p ∈ labels, ∀ id ∈ p.2, (find id).isSome = true

/-- An id finds nothing, and all that stand before it do: those before it under its own label, and
those under the labels before. -/
def FirstUnknown (find : Int64 → Option α) (labels : List (String × List Int64)) (label : String)
    (id : Int64) : Prop :=
  ∃ before known rest after, labels = before ++ (label, known ++ id :: rest) :: after ∧
    AllFound find before ∧ (∀ i ∈ known, (find i).isSome = true) ∧ find id = none

theorem FirstUnknown.not_allFound {label : String} {id : Int64}
    (h : FirstUnknown find labels label id) : ¬ AllFound find labels := by
  intro hall
  obtain ⟨before, known, rest, after, rfl, -, -, hid⟩ := h
  have hsome := hall _ (List.mem_append_right _ List.mem_cons_self) id
    (List.mem_append_right _ List.mem_cons_self)
  rw [hid] at hsome
  cases hsome

namespace Positions

theorem findEach_unknown {id : Int64} {rest : List Int64} (h : find id = none) :
    findEach find (id :: rest) = .error id := by
  rw [findEach, h]
  rfl

theorem findEach_known {id : Int64} {rest : List Int64} {a : α} (h : find id = some a) :
    findEach find (id :: rest) = (findEach find rest).map (a :: ·) := by
  rw [findEach, h]
  cases findEach find rest <;> rfl

/-- A list of ids finds what each of them finds. -/
theorem findEach_ok {as : List α} (h : findEach find ids = .ok as) :
    ids.map find = as.map some := by
  induction ids generalizing as with
  | nil =>
    obtain rfl := Except.ok.inj h
    rfl
  | cons id rest ih =>
    cases hid : find id with
    | none =>
      rw [findEach_unknown hid] at h
      cases h
    | some a =>
      rw [findEach_known hid] at h
      obtain ⟨bs, hbs, rfl⟩ := Checker.map_ok h
      rw [List.map_cons, List.map_cons, hid, ih hbs]

/-- A list of ids fails at the first that finds nothing. -/
theorem findEach_error {id : Int64} (h : findEach find ids = .error id) :
    ∃ known rest, ids = known ++ id :: rest ∧ (∀ i ∈ known, (find i).isSome = true) ∧
      find id = none := by
  induction ids with
  | nil => cases h
  | cons i rest ih =>
    cases hi : find i with
    | none =>
      rw [findEach_unknown hi] at h
      obtain rfl := Except.error.inj h
      exact ⟨[], rest, rfl, List.forall_mem_nil _, hi⟩
    | some a =>
      rw [findEach_known hi] at h
      have hrest : findEach find rest = .error id := by
        cases hx : findEach find rest with
        | error e => rwa [hx] at h
        | ok as =>
          rw [hx] at h
          cases h
      obtain ⟨known, after, rfl, hknown, hid⟩ := ih hrest
      have hsome : (find i).isSome = true := by rw [hi]; rfl
      exact ⟨i :: known, after, rfl, List.forall_mem_cons.mpr ⟨hsome, hknown⟩, hid⟩

theorem isSome_of_found {as : List α} (h : ids.map find = as.map some) :
    ∀ i ∈ ids, (find i).isSome = true := by
  intro i hi
  have hmem : find i ∈ as.map some := h ▸ List.mem_map_of_mem hi
  obtain ⟨a, -, ha⟩ := List.mem_map.mp hmem
  rw [← ha]
  rfl

variable {taken found : SortedMap (List α)}

/-- Labels find what the ids under them find. -/
theorem findLabelled_ok (h : findLabelled find taken labels = .ok found) :
    ∃ located : List (String × List α),
      labels.map (fun p => (p.1, p.2.map find)) = located.map (fun e => (e.1, e.2.map some)) ∧
        found = located.foldl (fun map e => map.insert e.1 e.2) taken := by
  induction labels generalizing taken with
  | nil =>
    obtain rfl := Except.ok.inj h
    exact ⟨[], rfl, rfl⟩
  | cons p rest ih =>
    obtain ⟨label, ids⟩ := p
    rw [findLabelled] at h
    cases hids : findEach find ids with
    | error id =>
      rw [hids] at h
      cases h
    | ok as =>
      rw [hids] at h
      obtain ⟨located, hlocated, rfl⟩ := ih h
      refine ⟨(label, as) :: located, ?_, rfl⟩
      rw [List.map_cons, List.map_cons, hlocated, findEach_ok hids]

/-- Labels fail at the first id that finds nothing under the first label with such an id. -/
theorem findLabelled_error {culprit : String × Int64}
    (h : findLabelled find taken labels = .error culprit) :
    FirstUnknown find labels culprit.1 culprit.2 := by
  induction labels generalizing taken with
  | nil => cases h
  | cons p rest ih =>
    obtain ⟨label, ids⟩ := p
    rw [findLabelled] at h
    cases hids : findEach find ids with
    | error id =>
      rw [hids] at h
      obtain rfl := Except.error.inj h
      obtain ⟨known, after, rfl, hknown, hid⟩ := findEach_error hids
      exact ⟨[], known, after, rest, rfl, List.forall_mem_nil _, hknown, hid⟩
    | ok as =>
      rw [hids] at h
      obtain ⟨before, known, after, others, rfl, hbefore, hknown, hid⟩ := ih h
      refine ⟨(label, ids) :: before, known, after, others, rfl, ?_, hknown, hid⟩
      exact List.forall_mem_cons.mpr ⟨isSome_of_found (findEach_ok hids), hbefore⟩

/-- Labels are found only if every id finds something. -/
theorem allFound_of_findLabelled (h : findLabelled find taken labels = .ok found) :
    AllFound find labels := by
  intro p hp
  obtain ⟨located, hlocated, -⟩ := findLabelled_ok h
  have hmem : (p.1, p.2.map find) ∈ located.map fun e => (e.1, e.2.map some) :=
    hlocated ▸ List.mem_map_of_mem hp
  obtain ⟨e, -, he⟩ := List.mem_map.mp hmem
  exact isSome_of_found (congrArg Prod.snd he).symm

end Positions

end Finding

/-! ## Places and what is there -/

theorem isSome_getElem?_of_findIdx? {α : Type} {p : α → Bool} {l : List α} {index : Nat}
    (h : l.findIdx? p = some index) : (l[index]?).isSome = true := by
  obtain ⟨hlt, -⟩ := List.findIdx?_eq_some_iff_getElem.mp h
  rw [List.getElem?_eq_getElem hlt]
  rfl

namespace Machine

variable (m : Machine)

/-- What a machine finds under the id of an interface is what is in its position. -/
theorem interface?_eq (id : Int64) :
    m.interface? id = (m.interfaceIndex? id).bind (m.interfaces[·]?) :=
  List.find?_eq_bind_findIdx?_getElem?

/-- What a machine finds under the id of a block device is what is in its place. -/
theorem blockDevice?_eq (id : Int64) :
    m.blockDevice? id = (m.storageSlot? id).bind m.inSlot? := by
  rw [blockDevice?, physicalBlockDevice?, storageSlot?, List.find?_eq_bind_findIdx?_getElem?,
    List.find?_eq_bind_findIdx?_getElem?]
  cases hblock : m.blockDevices.findIdx? (·.id == id) with
  | none => cases m.physicalBlockDevices.findIdx? (·.id == id) <;> rfl
  | some index =>
    obtain ⟨d, hd⟩ := Option.isSome_iff_exists.mp (isSome_getElem?_of_findIdx? hblock)
    show (m.blockDevices[index]? <|> _) = m.blockDevices[index]?
    rw [hd]
    rfl

theorem isSome_inSlot? {id : Int64} {slot : StorageSlot} (h : m.storageSlot? id = some slot) :
    (m.inSlot? slot).isSome = true := by
  rw [storageSlot?] at h
  cases hblock : m.blockDevices.findIdx? (·.id == id) with
  | some index =>
    rw [hblock] at h
    obtain rfl := Option.some.inj h
    exact isSome_getElem?_of_findIdx? hblock
  | none =>
    rw [hblock] at h
    obtain ⟨index, hindex, rfl⟩ := Option.map_eq_some_iff.mp h
    exact isSome_getElem?_of_findIdx? hindex

end Machine

section Places

variable {α β : Type} {find : Int64 → Option β} {place : β → Option α}

/-- There is something in a place if the place is found, and only then. -/
theorem isSome_bind_place (hplace : ∀ id slot, find id = some slot → (place slot).isSome = true)
    (id : Int64) : ((find id).bind place).isSome = (find id).isSome := by
  cases h : find id with
  | none => rfl
  | some slot => exact hplace id slot h

/-- Nothing is left out where places are looked up: each has what its id is looked for. -/
theorem filterMap_place (hplace : ∀ id slot, find id = some slot → (place slot).isSome = true)
    {ids : List Int64} {slots : List β} (h : ids.map find = slots.map some) :
    (slots.filterMap place).map some = ids.map fun id => (find id).bind place := by
  induction ids generalizing slots with
  | nil =>
    obtain rfl : slots = [] := by simpa using h.symm
    rfl
  | cons id rest ih =>
    cases slots with
    | nil => cases h
    | cons slot slots =>
      obtain ⟨hid, hrest⟩ := List.cons.inj h
      obtain ⟨a, ha⟩ := Option.isSome_iff_exists.mp (hplace id slot hid)
      rw [List.filterMap_cons_some ha, List.map_cons, List.map_cons, ih hrest, hid, ← ha]
      rfl

theorem map_filterMap_place
    (hplace : ∀ id slot, find id = some slot → (place slot).isSome = true)
    {labels : List (String × List Int64)} {located : List (String × List β)}
    (h : labels.map (fun p => (p.1, p.2.map find)) = located.map fun e => (e.1, e.2.map some)) :
    located.map (fun e => (e.1, (e.2.filterMap place).map some)) =
      labels.map fun p => (p.1, p.2.map fun id => (find id).bind place) := by
  induction labels generalizing located with
  | nil =>
    obtain rfl : located = [] := by simpa using h.symm
    rfl
  | cons p rest ih =>
    cases located with
    | nil => cases h
    | cons e located =>
      obtain ⟨hp, hrest⟩ := List.cons.inj h
      obtain ⟨hlabel, hids⟩ := Prod.mk.inj hp
      rw [List.map_cons, List.map_cons, ih hrest, filterMap_place hplace hids, hlabel]

/-- What is in the places that were found under labels is what the ids under the labels are looked
for. -/
theorem Positions.view_located
    (hplace : ∀ id slot, find id = some slot → (place slot).isSome = true)
    {look : Int64 → Option α} (hlook : ∀ id, look id = (find id).bind place)
    {labels : List (String × List Int64)} (hascending : Ascending labels)
    {found : SortedMap (List β)} (h : findLabelled find .empty labels = .ok found) :
    (found.map fun slots => slots.filterMap place).entries.map (fun e => (e.1, e.2.map some)) =
      labels.map fun p => (p.1, p.2.map look) := by
  obtain ⟨located, hlocated, rfl⟩ := findLabelled_ok h
  have hkeys : labels.map Prod.fst = located.map Prod.fst := by
    have hfirst := congrArg (List.map Prod.fst) hlocated
    rw [List.map_map, List.map_map] at hfirst
    exact hfirst
  have hentries : (located.foldl (fun map e => map.insert e.1 e.2) SortedMap.empty).entries =
      located :=
    SortedMap.entries_foldl_insert (m := .empty)
      (ascending_iff.2 (hkeys ▸ ascending_iff.1 hascending))
  rw [SortedMap.entries_map, hentries, List.map_map, funext hlook]
  exact map_filterMap_place hplace hlocated

theorem AllFound.congr {find' : Int64 → Option α}
    (hsame : ∀ id, (find' id).isSome = (find id).isSome) {labels : List (String × List Int64)} :
    AllFound find' labels ↔ AllFound find labels := by
  simp only [AllFound, hsame]

theorem FirstUnknown.congr {find' : Int64 → Option α}
    (hsame : ∀ id, (find' id).isSome = (find id).isSome) {labels : List (String × List Int64)}
    {label : String} {id : Int64} (h : FirstUnknown find labels label id) :
    FirstUnknown find' labels label id := by
  obtain ⟨before, known, rest, after, hlabels, hbefore, hknown, hid⟩ := h
  refine ⟨before, known, rest, after, hlabels, (AllFound.congr hsame).2 hbefore,
    fun i hi => (hsame i).trans (hknown i hi), ?_⟩
  rw [← Option.isNone_iff_eq_none, ← Option.not_isSome, hsame, hid]
  rfl

end Places

/-! ## Match documents -/

theorem listedLabels?_keys {entries : List (String × Json)} {labels : List (String × List Int64)}
    (h : listedLabels? (some (.object entries)) = some labels) :
    labels.map Prod.fst = entries.map Prod.fst := by
  rw [listedLabels?] at h
  induction entries generalizing labels with
  | nil =>
    obtain rfl := Option.some.inj h
    rfl
  | cons e rest ih =>
    rw [List.mapM_cons] at h
    obtain ⟨p, hp, h⟩ := Option.bind_eq_some_iff.mp h
    obtain ⟨ps, hps, h⟩ := Option.bind_eq_some_iff.mp h
    obtain ⟨ids, -, rfl⟩ := Option.map_eq_some_iff.mp hp
    obtain rfl := Option.some.inj h
    rw [List.map_cons, List.map_cons, ih hps]

/-- Labels come in the order of the document. -/
theorem ascending_listedLabels? {found : Option Json} {labels : List (String × List Int64)}
    (h : listedLabels? found = some labels)
    (hkeys : ∀ entries, found = some (.object entries) → Ascending entries) : Ascending labels := by
  cases found with
  | none =>
    obtain rfl := Option.some.inj h
    exact List.Pairwise.nil
  | some u =>
    cases u with
    | object entries =>
      rw [ascending_iff, listedLabels?_keys h]
      exact ascending_iff.1 (hkeys entries rfl)
    | _ => cases h

namespace Positions

variable {machine : Machine} {source : Json} {listing : Listing}

theorem locate_listed (h : Listing.of? source = some listing) :
    locate machine source =
      ((findLabelled machine.interfaceIndex? .empty listing.interfaces).mapError
        (unknownId "interface" "interface")).bind fun interfaces =>
          ((findLabelled machine.storageSlot? .empty listing.storage).mapError
            (unknownId "storage" "block device")).map fun storage => ⟨interfaces, storage⟩ := by
  obtain ⟨record, hrecord⟩ := check_of_listing h
  obtain ⟨listing', hlisting, hinterfaces, hstorage⟩ := listing_of_check hrecord
  obtain rfl : listing = listing' := Option.some.inj (h.symm.trans hlisting)
  simp only [locate, checkFields, hrecord, hinterfaces, hstorage, ok_mapError, bind, Except.bind]
  cases findLabelled machine.interfaceIndex? .empty listing.interfaces with
  | error culprit => rfl
  | ok interfaces => cases findLabelled machine.storageSlot? .empty listing.storage <;> rfl

theorem locate_unlisted (machine : Machine) (h : Listing.of? source = none) :
    ∃ e, locate machine source = .error e := by
  cases hcheck : schema.check source with
  | error fault =>
    rw [locate, checkFields, hcheck]
    exact ⟨_, rfl⟩
  | ok record =>
    obtain ⟨listing, hlisting, -⟩ := listing_of_check hcheck
    rw [h] at hlisting
    cases hlisting

end Positions

/-! ## Resolution -/

/-- Labels stand in a document as keys stand in a map. -/
def Json.LabelsAscend (source : Json) : Prop :=
  ∀ field labels, source.get? field = some (.object labels) → Ascending labels

namespace Listing

variable (listing : Listing) (machine : Machine)

/-- The machine itself finds all that is listed. -/
def Known : Prop :=
  AllFound machine.interface? listing.interfaces ∧ AllFound machine.blockDevice? listing.storage

/-- The labels are those that are listed, in their order, and under each is what the machine itself
finds under the ids, one by one. -/
def Exact (found : Matches) : Prop :=
  found.interfaces.entries.map (fun e => (e.1, e.2.map some)) =
      listing.interfaces.map (fun p => (p.1, p.2.map machine.interface?)) ∧
    found.storage.entries.map (fun e => (e.1, e.2.map some)) =
      listing.storage.map fun p => (p.1, p.2.map machine.blockDevice?)

/-- The error names the first id that the machine itself does not find, and its label: those of
interfaces come before those of storage. -/
def Blamed (e : Error) : Prop :=
  (∃ label id, FirstUnknown machine.interface? listing.interfaces label id ∧
      e = Positions.unknownId "interface" "interface" (label, id)) ∨
    AllFound machine.interface? listing.interfaces ∧
      ∃ label id, FirstUnknown machine.blockDevice? listing.storage label id ∧
        e = Positions.unknownId "storage" "block device" (label, id)

variable {listing machine}

theorem Blamed.not_known {e : Error} (h : listing.Blamed machine e) : ¬ listing.Known machine := by
  rintro ⟨hinterfaces, hstorage⟩
  rcases h with ⟨label, id, hfirst, -⟩ | ⟨-, label, id, hfirst, -⟩
  · exact hfirst.not_allFound hinterfaces
  · exact hfirst.not_allFound hstorage

end Listing

namespace Matches

variable (machine : Machine) {source : Json} {listing : Listing}

theorem isSome_interface? (id : Int64) :
    (machine.interface? id).isSome = (machine.interfaceIndex? id).isSome := by
  rw [machine.interface?_eq]
  exact isSome_bind_place (fun _ _ h => isSome_getElem?_of_findIdx? h) id

theorem isSome_blockDevice? (id : Int64) :
    (machine.blockDevice? id).isSome = (machine.storageSlot? id).isSome := by
  rw [machine.blockDevice?_eq]
  exact isSome_bind_place (fun _ _ h => machine.isSome_inSlot? h) id

/-- What a document lists is found as the machine itself finds it, or there is an id to blame. -/
theorem resolve_cases (h : Listing.of? source = some listing) :
    (∃ found, resolve machine source = .ok found ∧ listing.Known machine ∧
      (Ascending listing.interfaces → Ascending listing.storage →
        listing.Exact machine found)) ∨
    ∃ e, resolve machine source = .error e ∧ listing.Blamed machine e := by
  rw [resolve, Positions.locate_listed h]
  cases his : Positions.findLabelled machine.interfaceIndex? .empty listing.interfaces with
  | error culprit =>
    have hfirst := (Positions.findLabelled_error his).congr (isSome_interface? machine)
    exact .inr ⟨_, rfl, .inl ⟨_, _, hfirst, rfl⟩⟩
  | ok interfaces =>
    have hinterfaces := (AllFound.congr (isSome_interface? machine)).2
      (Positions.allFound_of_findLabelled his)
    cases hss : Positions.findLabelled machine.storageSlot? .empty listing.storage with
    | error culprit =>
      have hfirst := (Positions.findLabelled_error hss).congr (isSome_blockDevice? machine)
      exact .inr ⟨_, rfl, .inr ⟨hinterfaces, _, _, hfirst, rfl⟩⟩
    | ok storage =>
      have hstorage := (AllFound.congr (isSome_blockDevice? machine)).2
        (Positions.allFound_of_findLabelled hss)
      refine .inl ⟨_, rfl, ⟨hinterfaces, hstorage⟩, fun his' hss' => ⟨?_, ?_⟩⟩
      · exact Positions.view_located (fun _ _ h => isSome_getElem?_of_findIdx? h)
          machine.interface?_eq his' his
      · exact Positions.view_located (fun _ _ h => machine.isSome_inSlot? h)
          machine.blockDevice?_eq hss' hss

/-- A document that lists no ids is refused. -/
theorem resolve_unlisted (h : Listing.of? source = none) :
    ∃ e, resolve machine source = .error e := by
  obtain ⟨e, he⟩ := Positions.locate_unlisted machine h
  exact ⟨e, by rw [resolve, he]; rfl⟩

/-- The matches of an allocated machine are what its document names, found on the machine. -/
theorem found_of_read {v : Version} {source : Json} {a : Allocation}
    (h : Allocation.read v source = .ok a) :
    Machine.reader.read v source = .ok a.machine ∧
      match source.get? Allocation.matchesField with
      | none | some .null => a.found = empty
      | some document => resolve a.machine document = .ok a.found := by
  rw [Allocation.read_eq] at h
  cases hmachine : Machine.reader.read v source with
  | error e =>
    rw [hmachine] at h
    cases h
  | ok machine =>
    rw [hmachine] at h
    obtain ⟨positions, hpositions, rfl⟩ := Checker.map_ok h
    refine ⟨rfl, ?_⟩
    cases hdocument : source.get? Allocation.matchesField with
    | none =>
      rw [hdocument] at hpositions
      obtain rfl := Except.ok.inj hpositions
      rfl
    | some document =>
      rw [hdocument] at hpositions
      have hlocate (hpositions : (Positions.locate machine document).mapError
          (Error.annotate Allocation.matchesField) = .ok positions) :
          resolve machine document = .ok (positions.view machine) := by
        rw [resolve, mapError_ok.1 hpositions]
        rfl
      cases document with
      | null =>
        obtain rfl := Except.ok.inj hpositions
        rfl
      | _ => exact hlocate hpositions

/-- **Resolution is exact.** A match document is resolved if it has the declared shape and the
machine itself finds all that it lists; then its labels are there as they stand in the document, and
under each label what the machine finds under the ids, one by one. Otherwise the error names the
first id that is not on the machine and its label, those of interfaces before those of storage. The
labels that are listed ascend if those of the document do.

What satisfied the constraints on an allocated machine is what its document names, and nothing if
the document is missing or null. -/
theorem resolve_exact :
    (∀ (machine : Machine) (source : Json),
      ((∃ found, resolve machine source = .ok found) ↔
        ∃ listing, Listing.of? source = some listing ∧ listing.Known machine) ∧
      ∀ listing, Listing.of? source = some listing →
        source.LabelsAscend →
          (Ascending listing.interfaces ∧ Ascending listing.storage) ∧
          (∀ found, resolve machine source = .ok found → listing.Exact machine found) ∧
          ∀ e, resolve machine source = .error e → listing.Blamed machine e) ∧
    ∀ (v : Version) (source : Json) (a : Allocation), Allocation.read v source = .ok a →
      Machine.reader.read v source = .ok a.machine ∧
        match source.get? Allocation.matchesField with
        | none | some .null => a.found = empty
        | some document => resolve a.machine document = .ok a.found := by
  refine ⟨fun machine source => ⟨⟨fun hok => ?_, fun ⟨listing, hlisting, hknown⟩ => ?_⟩,
    fun listing hlisting hlabels => ?_⟩, fun v source a h => found_of_read h⟩
  · obtain ⟨found, hfound⟩ := hok
    cases hlisting : Listing.of? source with
    | none =>
      obtain ⟨e, he⟩ := resolve_unlisted machine hlisting
      cases hfound.symm.trans he
    | some listing =>
      rcases resolve_cases machine hlisting with ⟨-, -, hknown, -⟩ | ⟨e, he, -⟩
      · exact ⟨listing, rfl, hknown⟩
      · cases hfound.symm.trans he
  · rcases resolve_cases machine hlisting with ⟨found, hfound, -⟩ | ⟨e, -, hblamed⟩
    · exact ⟨found, hfound⟩
    · exact absurd hknown hblamed.not_known
  · obtain ⟨his, hss⟩ := Listing.of?_eq_some hlisting
    have hinterfaces := ascending_listedLabels? his (hlabels "interfaces")
    have hstorage := ascending_listedLabels? hss (hlabels "storage")
    refine ⟨⟨hinterfaces, hstorage⟩, fun found hfound => ?_, fun e he => ?_⟩
    · rcases resolve_cases machine hlisting with ⟨found', hfound', -, hexact⟩ | ⟨e, he, -⟩
      · obtain rfl : found = found' := Except.ok.inj (hfound.symm.trans hfound')
        exact hexact hinterfaces hstorage
      · cases hfound.symm.trans he
    · rcases resolve_cases machine hlisting with ⟨found, hfound, -⟩ | ⟨e', he', hblamed⟩
      · cases hfound.symm.trans he
      · obtain rfl : e = e' := Except.error.inj (he.symm.trans he')
        exact hblamed

end Matches

/-! ## A machine with twins -/

/-- The document of a machine that was allocated with a match document. -/
def Allocation.document (machine : Machine) (found : Json) : Json :=
  match machine.document with
  | .object entries => .object (insertEntry matchesField found entries)
  | other => other

theorem Allocation.get?_document (machine : Machine) (found : Json) :
    (document machine found).get? matchesField = some found := by
  show findEntry matchesField (insertEntry matchesField found _) = _
  rw [findEntry_insertEntry, if_pos rfl]

/-- The machine is read back from it. -/
theorem Allocation.readsBack {v : Version} (hv : Version.v2_0 ≤ v) {machine : Machine}
    (h : machine.Writable) (found : Json) :
    Machine.reader.read v (document machine found) = .ok machine := by
  have hsame : Kind.machine.Interchangeable v v machine.document (document machine found) := by
    refine Kind.interchangeable_of_members (.refl v) fun m hm => ?_
    have hnames : ∀ m ∈ Kind.machine.schema, matchesField ≠ m.name := by decide
    rw [findEntry_insertEntry, if_neg (hnames m hm)]
    exact optionRel_same (.refl _ v) _
  exact hsame.read_eq.trans (Machine.readsBack hv machine h).read_eq

/-- One of two interfaces with one id. -/
def twinInterface (name : String) : Interface where
  resourceUri := ""
  id := 48
  name := name
  kind := "physical"
  enabled := true
  tags := []
  vlan := none
  links := []
  macAddress := ""
  effectiveMtu := 1500
  parents := []
  children := []

/-- A disk. -/
def plainDisk : BlockDevice :=
  ⟨"", 34, "", "sda", "", "", "", "", [], 512, 0, 512, []⟩

/-- A machine with two interfaces of one id, and a disk that is listed among the physical ones
only. -/
def twinMachine : Machine where
  resourceUri := ""
  systemId := ⟨"4y3ha3", by decide⟩
  hostname := ""
  fqdn := ""
  tags := []
  owner := ""
  ownerData := .empty
  operatingSystem := ""
  distroSeries := ""
  architecture := ""
  memory := 0
  cpuCount := 0
  ipAddresses := []
  powerState := ""
  statusName := ""
  statusMessage := ""
  bootInterface := none
  interfaces := [twinInterface "eth0", twinInterface "eth1"]
  zone := ⟨"default", "", ""⟩
  physicalBlockDevices := [plainDisk]
  blockDevices := []

/-- A match document that names both an interface twice, and nothing under another label. -/
def twinMatches : Json :=
  .object [("interfaces", .object [("db", .list [.integer 48, .string " 48"]), ("none", .null)]),
    ("storage", .object [("root", .list [.integer 34])])]

/-- A match document with ids that are not on the machine. -/
def strayMatches : Json :=
  .object [("interfaces", .object [("db", .list [.integer 48]),
      ("public", .list [.integer 48, .integer 99, .integer 7])]),
    ("storage", .object [("root", .list [.integer 1])])]

theorem Matches.resolve_exact_twin :
    (∃ listing, Listing.of? twinMatches = some listing ∧ listing.Known twinMachine ∧
      twinMatches.LabelsAscend ∧
      ∃ found, resolve twinMachine twinMatches = .ok found ∧ listing.Exact twinMachine found) ∧
    (∃ listing, Listing.of? strayMatches = some listing ∧ strayMatches.LabelsAscend ∧
      ∃ e, resolve twinMachine strayMatches = .error e ∧ listing.Blamed twinMachine e) ∧
    ∃ a, Allocation.read .v2_0 (Allocation.document twinMachine twinMatches) = .ok a ∧
      resolve a.machine twinMatches = .ok a.found := by
  have hlabels {is ss : List (String × Json)} (his : Ascending is) (hss : Ascending ss) :
      (Json.object [("interfaces", .object is), ("storage", .object ss)]).LabelsAscend := by
    intro field labels h
    simp only [Json.get?, findEntry] at h
    split at h
    · exact Json.object.inj (Option.some.inj h) ▸ his
    · split at h
      · exact Json.object.inj (Option.some.inj h) ▸ hss
      · cases h
  have htwin : twinMatches.LabelsAscend :=
    hlabels (ascending_iff.2 (by decide)) (ascending_iff.2 (by decide))
  have hstray : strayMatches.LabelsAscend :=
    hlabels (ascending_iff.2 (by decide)) (ascending_iff.2 (by decide))
  obtain ⟨hknown, htwins⟩ := resolve_exact.1 twinMachine twinMatches
  obtain ⟨listing, hlisting, hall⟩ := hknown.1 ⟨_, rfl⟩
  refine ⟨⟨listing, hlisting, hall, htwin, _, rfl, (htwins _ hlisting htwin).2.1 _ rfl⟩,
    ⟨_, rfl, hstray, _, rfl, ((resolve_exact.1 twinMachine strayMatches).2 _ rfl hstray).2.2 _ rfl⟩,
    ?_⟩
  have hread : ∃ a,
      Allocation.read .v2_0 (Allocation.document twinMachine twinMatches) = .ok a := by
    rw [Allocation.read_eq, Allocation.readsBack (by decide) (by decide), Allocation.get?_document]
    exact ⟨_, rfl⟩
  obtain ⟨a, ha⟩ := hread
  have hfound := (resolve_exact.2 _ _ a ha).2
  rw [Allocation.get?_document] at hfound
  exact ⟨a, ha, hfound⟩

end RegionClient
