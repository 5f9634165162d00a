import RegionClient.Proofs.Members

set_option autoImplicit false

/-! # Readers

What a reader does with the shape of a document and with a version, item by item of a list, and for
a member of a record; and what reading a layout made of other layouts comes down to.

The first failure counts wherever things are read one after another: `forM_error`,
`Reader.readItems_error`.
-/

namespace RegionClient

/-! ## One after another -/

section Outcomes

variable {ε α β : Type}

theorem forM_cons (f : α → Except ε Unit) (a : α) (l : List α) :
    (a :: l).forM f = (f a).bind fun _ => l.forM f :=
  rfl

theorem forM_ok {f : α → Except ε Unit} {l : List α} :
    l.forM f = .ok () ↔ ∀ a ∈ l, f a = .ok () := by
  induction l with
  | nil => simp [pure, Except.pure]
  | cons a rest ih =>
    rw [forM_cons, List.forall_mem_cons, ← ih]
    cases f a <;> simp [Except.bind]

/-- The first failure counts, and what comes before it succeeds. -/
theorem forM_error {f : α → Except ε Unit} {l : List α} {e : ε} (h : l.forM f = .error e) :
    ∃ before a after, l = before ++ a :: after ∧ (∀ b ∈ before, f b = .ok ()) ∧
      f a = .error e := by
  induction l with
  | nil => cases h
  | cons a rest ih =>
    rw [forM_cons] at h
    cases ha : f a with
    | error e' =>
      rw [ha] at h
      exact ⟨[], a, rest, rfl, List.forall_mem_nil _, ha.trans h⟩
    | ok =>
      rw [ha] at h
      obtain ⟨before, b, after, rfl, hbefore, hb⟩ := ih h
      exact ⟨a :: before, b, after, rfl, List.forall_mem_cons.mpr ⟨ha, hbefore⟩, hb⟩

theorem forM_append (f : α → Except ε Unit) (l l' : List α) :
    (l ++ l').forM f = (l.forM f).bind fun _ => l'.forM f := by
  induction l with
  | nil => rfl
  | cons a rest ih =>
    rw [List.cons_append, forM_cons, forM_cons, ih]
    cases f a <;> rfl

theorem forM_map {γ : Type} (g : γ → α) (f : α → Except ε Unit) (l : List γ) :
    (l.map g).forM f = l.forM fun c => f (g c) := by
  induction l with
  | nil => rfl
  | cons c rest ih =>
    rw [List.map_cons, forM_cons, forM_cons, ih]

theorem forM_mapError {δ : Type} (g : ε → δ) (f : α → Except ε Unit) (l : List α) :
    (l.forM f).mapError g = l.forM fun a => (f a).mapError g := by
  induction l with
  | nil => rfl
  | cons a rest ih =>
    rw [forM_cons, forM_cons, ← ih]
    cases f a <;> rfl

theorem mapM_cons_ok {γ : Type} {f : α → Except ε γ} {a : α} {l : List α} {cs : List γ} :
    (a :: l).mapM f = .ok cs ↔ ∃ c ds, f a = .ok c ∧ l.mapM f = .ok ds ∧ cs = c :: ds := by
  rw [List.mapM_cons]
  cases f a with
  | error e => simp [bind, Except.bind]
  | ok c => cases l.mapM f <;> simp [bind, Except.bind, pure, Except.pure, eq_comm]

/-- All succeed if each does. -/
theorem mapM_ok_iff {γ : Type} {f : α → Except ε γ} {l : List α} :
    (∃ cs, l.mapM f = .ok cs) ↔ ∀ a ∈ l, ∃ c, f a = .ok c := by
  induction l with
  | nil => simp [pure, Except.pure]
  | cons a rest ih =>
    rw [List.forall_mem_cons, ← ih]
    simp only [mapM_cons_ok]
    constructor
    · rintro ⟨-, c, ds, hc, hds, rfl⟩
      exact ⟨⟨c, hc⟩, ds, hds⟩
    · rintro ⟨⟨c, hc⟩, ds, hds⟩
      exact ⟨c :: ds, c, ds, hc, hds, rfl⟩

/-- All succeed if each does, with the results in their places. -/
theorem mapM_eq_ok {γ : Type} {f : α → Except ε γ} {l : List α} {cs : List γ} :
    l.mapM f = .ok cs ↔ List.Forall₂ (fun a c => f a = .ok c) l cs := by
  induction l generalizing cs with
  | nil => simp [pure, Except.pure, eq_comm]
  | cons a rest ih =>
    simp only [mapM_cons_ok, ih, List.forall₂_cons_left_iff]

theorem mapM_length {γ : Type} {f : α → Except ε γ} {l : List α} {cs : List γ}
    (h : l.mapM f = .ok cs) : cs.length = l.length :=
  (mapM_eq_ok.mp h).length_eq.symm

end Outcomes

/-! ## Items -/

namespace Reader

variable {α : Type} {name : String} {item : Json → Except Error α} {index : Nat}

/-- A list is read item by item. -/
theorem readItems_ok {us : List Json} {as : List α} :
    readItems name item index us = .ok as ↔ us.mapM item = .ok as := by
  induction us generalizing index as with
  | nil => simp [readItems, pure, Except.pure]
  | cons u rest ih =>
    have hrest {bs : List α} : readItems name item (index + 1) rest = .ok bs ↔
        rest.mapM item = .ok bs := ih
    simp only [mapM_cons_ok, readItems, ← hrest]
    cases item u with
    | error e => simp [bind, Except.bind]
    | ok a =>
      cases readItems name item (index + 1) rest <;>
        simp [bind, Except.bind, pure, Except.pure, eq_comm]

/-- A list stops at the first item that cannot be read, and says which it is. -/
theorem readItems_error {us : List Json} {e : Error} (h : readItems name item index us = .error e) :
    ∃ before u after e', us = before ++ u :: after ∧ (∀ w ∈ before, ∃ a, item w = .ok a) ∧
      item u = .error e' ∧
      e = e'.annotate (name ++ " " ++ Numeral.ofNat (index + before.length)) := by
  induction us generalizing index e with
  | nil => cases h
  | cons u rest ih =>
    rcases bind_error.mp h with hu | ⟨a, hu, h⟩
    · obtain ⟨e', hfails, rfl⟩ := mapError_error hu
      exact ⟨[], u, rest, e', rfl, List.forall_mem_nil _, hfails, rfl⟩
    · rcases bind_error.mp h with hrest | ⟨as, -, h⟩
      · obtain ⟨before, w, after, e', rfl, hbefore, hw, rfl⟩ := ih hrest
        have hbefore : ∀ w ∈ u :: before, ∃ a, item w = .ok a :=
          List.forall_mem_cons.mpr ⟨⟨a, mapError_ok.mp hu⟩, hbefore⟩
        refine ⟨u :: before, w, after, e', rfl, hbefore, hw, ?_⟩
        rw [List.length_cons, Nat.add_right_comm, Nat.add_assoc]
      · cases h

theorem readItems_congr {item' : Json → Except Error α} {us : List Json}
    (h : ∀ u ∈ us, item u = item' u) :
    readItems name item index us = readItems name item' index us := by
  induction us generalizing index with
  | nil => rfl
  | cons u rest ih =>
    rw [readItems, readItems, h u List.mem_cons_self,
      ih fun w hw => h w (List.mem_cons_of_mem u hw)]

end Reader

/-! ## Shape and version -/

theorem Json.expectObject_ok {value : Json} (h : value.isObject = true) :
    ∃ entries, value.expectObject = .ok entries := by
  obtain ⟨entries, rfl⟩ := isObject_iff.mp h
  exact ⟨entries, rfl⟩

theorem Json.isObject_of_expectObject {value : Json} {entries : List (String × Json)}
    (h : value.expectObject = .ok entries) : value.isObject = true := by
  cases value <;> first | rfl | cases h

theorem Json.expectObjects_list (items : List Json) : (Json.list items).expectObjects =
    match firstOther 0 items with
    | none => .ok items
    | some p => .error (.mismatch [.item p.2] "map" p.1) := by
  rw [expectObjects, firstNoObject_eq]
  cases firstOther 0 items <;> rfl

theorem Json.expectObjects_ok {items : List Json} (h : ∀ u ∈ items, u.isObject = true) :
    (list items).expectObjects = .ok items := by
  rw [expectObjects_list, firstOther_eq_none.mpr h]

theorem Json.list_of_expectObjects {value : Json} {items : List Json}
    (h : value.expectObjects = .ok items) :
    value = .list items ∧ ∀ u ∈ items, u.isObject = true := by
  cases value with
  | list us =>
    rw [expectObjects_list] at h
    cases hother : firstOther 0 us with
    | none =>
      rw [hother] at h
      obtain rfl := Except.ok.inj h
      exact ⟨rfl, firstOther_eq_none.mp hother⟩
    | some p =>
      rw [hother] at h
      cases h
  | _ => cases h

namespace VersionTable

variable {α : Type} {table : VersionTable α} {since requested : Version} {entry : α}

theorem select_since (htable : table.entries = [(since, entry)]) (h : since ≤ requested) :
    table.select requested = .ok (since, entry) := by
  have hbest : best? requested table.entries = some (since, entry) := by
    rw [htable]
    exact if_pos h
  simp only [select, hbest]

theorem select_before (htable : table.entries = [(since, entry)]) (h : ¬ since ≤ requested) :
    table.select requested = .error (.unsupportedVersion table.typeName requested) := by
  have hbest : best? requested table.entries = none := by
    rw [htable]
    exact if_neg h
  simp only [select, hbest]

end VersionTable

namespace Layout

variable {α : Type} (layout : Layout α) (typeName : String) {v : Version} {source : Json}

/-- Reads the members of an object: all are checked before any is read. -/
def readMembers (v : Version) (source : Json) : Except Error α := do
  let record ← checkFields layout.schema source (Scope.mk typeName v).stage
  layout.read ⟨typeName, v⟩ record

/-- **Versions**: the reader of a layout has one entry, from version 2.0 on. -/
theorem select_reader (hv : Version.v2_0 ≤ v) : (layout.reader typeName).select v =
    .ok fun w => layout.readMembers typeName w := by
  rw [Reader.select, VersionTable.select_since rfl hv]
  rfl

theorem select_reader_before (hv : ¬ Version.v2_0 ≤ v) : (layout.reader typeName).select v =
    .error (.unsupportedVersion typeName v) := by
  rw [Reader.select, VersionTable.select_before rfl hv]
  rfl

end Layout

namespace Reader

variable {α : Type} (r : Reader α) {v : Version} {source : Json}

theorem read_object (hobject : source.isObject = true) :
    r.read v source = (r.select v).bind fun entry => entry v source := by
  obtain ⟨entries, rfl⟩ := Json.isObject_iff.mp hobject
  rfl

/-- The items of a list of objects are read once the version is known. -/
theorem readList_of_objects {items : List Json} (hobjects : ∀ w ∈ items, w.isObject = true) :
    r.readList v (.list items) =
      (r.select v).bind fun read => readItems r.typeName (read v) 0 items := by
  rw [readList, Json.expectObjects_ok hobjects]
  rfl

/-- The items of a list are read as they are read alone. -/
theorem readList_objects {items : List Json} (hobjects : ∀ u ∈ items, u.isObject = true)
    {entry : Version → Json → Except Error α} (hselect : r.select v = .ok entry) :
    r.readList v (.list items) = readItems r.typeName (r.read v) 0 items := by
  have hread : ∀ u ∈ items, entry v u = r.read v u := by
    intro u hu
    rw [read_object r (hobjects u hu), hselect]
    rfl
  rw [← readItems_congr hread, readList_of_objects r hobjects, hselect]
  rfl

end Reader

/-! ## Members of records -/

theorem Json.isObject_of_filter {found : Option Json} {u : Json}
    (hshape : ∀ u, found = some u → (u.isNull || u.isObject) = true)
    (hu : (found.filter fun u => !u.isNull) = some u) : u.isObject = true := by
  obtain ⟨hfound, hnull⟩ := Option.filter_eq_some_iff.mp hu
  have hnull : u.isNull = false := by simpa using hnull
  simpa [hnull] using hshape u hfound

namespace Record

variable {record : Record} {source : Json} {name : String}

theorem Holds.object_legible {schema : Schema} (h : record.Holds schema source)
    (hm : ⟨name, .object, .required⟩ ∈ schema) :
    ∃ u entries, record.value name = .ok u ∧ u.expectObject = .ok entries := by
  obtain ⟨u, hobject, -, hfind⟩ := h.requiredObject hm
  obtain ⟨entries, hentries⟩ := Json.expectObject_ok hobject
  exact ⟨u, entries, value_ok hfind, hentries⟩

theorem Holds.objectOrNull_legible {schema : Schema} {c : Checker} {p : Presence}
    (h : record.Holds schema source) (hm : ⟨name, c, p⟩ ∈ schema)
    (hc : c = .object ∨ c = .nullable .object) (hp : ∀ d, p ≠ .default d) :
    ∃ given, record.optValue name = .ok given ∧
      ∀ u, given = some u → ∃ entries, u.expectObject = .ok entries := by
  obtain ⟨hfind, hshape⟩ := h.objectOrNull hm hc hp
  exact ⟨_, optValue_ok hfind, fun u hu => Json.expectObject_ok (Json.isObject_of_filter hshape hu)⟩

theorem Holds.objects_legible {schema : Schema} (h : record.Holds schema source)
    (hm : ⟨name, .list .object, .required⟩ ∈ schema) :
    ∃ given, record.optValue name = .ok given ∧
      ∀ u, given = some u → ∃ items, u.expectObjects = .ok items := by
  obtain ⟨items, hobjects, -, hfind⟩ := h.requiredObjects hm
  refine ⟨_, optValue_ok hfind, fun u hu => ?_⟩
  obtain rfl : Json.list items = u := Option.some.inj (Option.filter_eq_some_iff.mp hu).1
  exact ⟨items, Json.expectObjects_ok hobjects⟩

end Record

namespace Reader

variable {α : Type} {r : Reader α} {v : Version} {record : Record} {field : String}

theorem readField_eq {u : Json} (h : record.find field = .ok (some u)) :
    r.readField v record field = (r.read v u).mapError (Error.annotate field) := by
  rw [readField, Record.value_ok h]
  rfl

theorem readOptionalField_eq {found : Option Json} (h : record.find field = .ok found) :
    r.readOptionalField v record field =
      match found.filter fun u => !u.isNull with
      | none => .ok none
      | some u => ((r.read v u).mapError (Error.annotate field)).map some := by
  rw [readOptionalField, Record.optValue_ok h]
  rfl

theorem readListField_eq {found : Option Json} (h : record.find field = .ok found) :
    r.readListField v record field =
      match found.filter fun u => !u.isNull with
      | none => .ok []
      | some u => (r.readList v u).mapError (Error.annotate field) := by
  rw [readListField, Record.optValue_ok h]
  rfl

/-- A list of objects gives as many values. -/
theorem readList_length {items : List Json} {as : List α}
    (h : r.readList v (.list items) = .ok as) : as.length = items.length := by
  obtain ⟨sources, hshape, h⟩ := bind_ok.mp h
  obtain ⟨entry, -, hitems⟩ := bind_ok.mp h
  obtain ⟨hlist, -⟩ := Json.list_of_expectObjects (mapError_ok.mp hshape)
  obtain rfl := Json.list.inj hlist
  exact mapM_length (readItems_ok.mp hitems)

end Reader

/-! ## Layouts -/

namespace Layout

variable {α β : Type} {scope : Scope} {record : Record}

theorem read_map (g : α → β) (x : Layout α) :
    (g <$> x).read scope record = (x.read scope record).map g :=
  rfl

theorem read_seq (f : Layout (α → β)) (x : Layout α) :
    (f <*> x).read scope record =
      (f.read scope record).bind fun g => (x.read scope record).map g := by
  show (f.read scope record).bind _ = _
  congr 1

theorem read_member (name : String) (c : Checker) (p : Presence)
    (get : Record → String → Except SchemaFault α) :
    (member name c p get).read scope record = (get record name).mapError Error.schema :=
  rfl

theorem read_word {field s : String} (h : record.find field = .ok (some (.string s)))
    (f : String → Except ReadFault α) : (refine field (text field) f).read scope record =
      (f s).mapError fun fault => .deserialization (.inside scope.stage (.inside field fault)) := by
  simp only [refine, text, read_member, Record.string_ok h]
  rfl

/-- A batch of two is read as a list of two, which gives two. -/
theorem read_pair {r : Reader α} {first second label plural : String} {a b : Json}
    (ha : record.find first = .ok (some a)) (hb : record.find second = .ok (some b)) :
    verdict ((pair r first second label plural).read scope record) =
      (verdict (r.readList scope.version (.list [a, b]))).mapError (Error.annotate label) := by
  simp only [pair, Record.value_ok ha, Record.value_ok hb, ok_mapError, bind, Except.bind]
  cases hlist : r.readList scope.version (.list [a, b]) with
  | error e => rfl
  | ok as =>
    match as, Reader.readList_length hlist with
    | [x, y], _ => rfl

theorem read_pair_ok {r : Reader α} {first second label plural : String} {a b : Json} {ends : α × α}
    (ha : record.find first = .ok (some a)) (hb : record.find second = .ok (some b))
    (h : (pair r first second label plural).read scope record = .ok ends) :
    r.readList scope.version (.list [a, b]) = .ok [ends.1, ends.2] := by
  simp only [pair, Record.value_ok ha, Record.value_ok hb, ok_mapError, bind, Except.bind] at h
  cases hlist : r.readList scope.version (.list [a, b]) with
  | error e =>
    rw [hlist] at h
    cases h
  | ok as =>
    rw [hlist] at h
    match as, Reader.readList_length hlist with
    | [x, y], _ =>
      obtain rfl := Except.ok.inj h
      rfl

end Layout

end RegionClient
