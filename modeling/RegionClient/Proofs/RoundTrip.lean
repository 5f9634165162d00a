import RegionClient.Proofs.Stages
import RegionClient.Proofs.Texts
import RegionClient.Proofs.WireForms

set_option autoImplicit false

/-! # Reading back what was written

The document of a resource is read as that resource. `Layout.Makes` says of a layout and some fields
that it makes a certain value of every object with these fields, and it is put together like the
layout itself: one lemma for each building block says what is made of the field that was written for
it, and the fields of two layouts stand one after the other.

`Kind.read_document` is the result for every kind.
-/

namespace RegionClient

/-! ## What a check leaves as it is -/

namespace Checker

theorem coerceAt_texts (path : Path) (items : List String) :
    coerceAt (.list .string) path (.list (items.map .string)) =
      .ok (.list (items.map .string)) := by
  have hitems : ∀ w ∈ items.map Json.string, ∀ path, coerceAt .string path w = .ok w := by
    intro w hw path
    obtain ⟨s, -, rfl⟩ := List.mem_map.mp hw
    rfl
  rw [coerceAt, coerceItems_fixed hitems]
  rfl

theorem coerceAt_textMap (path : Path) (entries : List (String × String)) :
    coerceAt (.stringMap .string) path (.object (entries.map fun e => (e.1, .string e.2))) =
      .ok (.object (entries.map fun e => (e.1, .string e.2))) := by
  have hentries : ∀ e ∈ entries.map fun e => (e.1, Json.string e.2),
      ∀ path, coerceAt .string path e.2 = .ok e.2 := by
    intro e he path
    obtain ⟨text, -, rfl⟩ := List.mem_map.mp he
    rfl
  rw [coerceAt, coerceEntries_fixed hentries]
  rfl

theorem coerceAt_forcedInt_written (path : Path) (n : Int64) :
    coerceAt .forcedInt path (.integer n.toInt) = .ok (.integer n.toInt) := by
  have hn : inSigned n.toInt = some n.toInt := if_pos ⟨n.le_toInt, n.toInt_lt⟩
  rw [coerceAt, forcedInt?, integerOr_some hn]

theorem coerceAt_forcedUint_written (path : Path) (n : UInt64) :
    coerceAt .forcedUint path (.integer n.toNat) = .ok (.integer n.toNat) := by
  have hlt : n.toNat < 2 ^ 64 := n.toNat_lt
  have hn : inUnsigned n.toNat = some (n.toNat : Int) := if_pos (by omega)
  rw [coerceAt, forcedUint?, integerOr_some hn]

end Checker

/-! ## What getters make of it -/

namespace Record

variable {record : Record} {name : String}

theorem textItems_texts (index : Nat) (items : List String) :
    textItems name index (items.map .string) = .ok items := by
  induction items generalizing index with
  | nil => rfl
  | cons s rest ih =>
    rw [List.map_cons, textItems, ih]
    rfl

theorem textEntries_texts (taken : SortedMap String) (entries : List (String × String)) :
    textEntries name taken (entries.map fun e => (e.1, .string e.2)) =
      .ok (entries.foldl (fun map e => map.insert e.1 e.2) taken) := by
  induction entries generalizing taken with
  | nil => rfl
  | cons e rest ih =>
    rw [List.map_cons, textEntries, ih]
    rfl

theorem strings_texts {items : List String}
    (h : record.find name = .ok (some (.list (items.map .string)))) :
    record.strings name = .ok items := by
  rw [strings, optValue_ok h]
  exact textItems_texts 0 items

theorem stringMap_textMap {map : SortedMap String}
    (h : record.find name = .ok (some (.object (map.entries.map fun e => (e.1, .string e.2))))) :
    record.stringMap name = .ok map := by
  rw [stringMap, optValue_ok h]
  refine (textEntries_texts .empty map.entries).trans (congrArg Except.ok ?_)
  exact map.ofList_entries

theorem int_written {n : Int64} (h : record.find name = .ok (some (.integer n.toInt))) :
    record.int name = .ok n := by
  rw [int_ok ⟨n.le_toInt, n.toInt_lt⟩ h, Int64.ofInt_toInt]

theorem uint_written {n : UInt64} (h : record.find name = .ok (some (.integer n.toNat))) :
    record.uint name = .ok n := by
  have hlt : n.toNat < 2 ^ 64 := n.toNat_lt
  rw [uint_ok (by omega) h, Int.toNat_natCast, UInt64.ofNat_toNat]

theorem optString_written {found : Option String}
    (h : record.find name = .ok (some ((found.map .string).getD .null))) :
    record.optString name = .ok found := by
  rw [optString, optValue_ok h]
  cases found <;> rfl

end Record

/-! ## Layouts -/

namespace Layout

variable {α β : Type} {v : Version} {rest : List Field} {name : String}

/-- A layout takes its members from the fields at the head of a list, leaves the rest, and makes a
value of every object that has these fields. -/
structure Makes (v : Version) (fields : List Field) (x : Layout α) (a : α) (rest : List Field) :
    Prop where
  names : fields.map Field.name = x.schema.map Member.name ++ rest.map Field.name
  rest_mem : ∀ f ∈ rest, f ∈ fields
  settles : ∀ source : Json, source.Has fields →
    ∀ m ∈ x.schema, ∃ w, m.settle [] (source.get? m.name) = .ok w
  reads : ∀ (source : Json) (record : Record) (typeName : String), source.Has fields →
    record.Holds x.schema source → x.read ⟨typeName, v⟩ record = .ok a

namespace Makes

theorem map {fields : List Field} {x : Layout α} {a : α} (g : α → β)
    (hx : Makes v fields x a rest) : Makes v fields (g <$> x) (g a) rest where
  names := hx.names
  rest_mem := hx.rest_mem
  settles := hx.settles
  reads source record typeName hhas hholds := by
    rw [read_map, hx.reads source record typeName hhas hholds]
    rfl

theorem seq {fields mid : List Field} {f : Layout (α → β)} {x : Layout α} {g : α → β} {a : α}
    (hf : Makes v fields f g mid) (hx : Makes v mid x a rest) :
    Makes v fields (f <*> x) (g a) rest where
  names := by
    show _ = (f.schema ++ x.schema).map Member.name ++ rest.map Field.name
    rw [hf.names, hx.names, List.map_append, List.append_assoc]
  rest_mem r hr := hf.rest_mem r (hx.rest_mem r hr)
  settles source hhas := List.forall_mem_append.mpr
    ⟨hf.settles source hhas, hx.settles source fun m hm => hhas m (hf.rest_mem m hm)⟩
  reads source record typeName hhas hholds := by
    obtain ⟨hfs, hxs⟩ : record.Holds f.schema source ∧ record.Holds x.schema source :=
      hholds.append
    rw [read_seq, hf.reads source record typeName hhas hfs,
      hx.reads source record typeName (fun m hm => hhas m (hf.rest_mem m hm)) hxs]
    rfl

/-- A building block of one member: what the field settles to is what it reads. -/
theorem single {m : Member Checker} {x : Layout α} {a : α} {f : Field} {w : Option Json}
    (hschema : x.schema = [m]) (hname : f.name = m.name) (hsettle : m.settle [] f.value = .ok w)
    (hread : ∀ (record : Record) (typeName : String), record.find m.name = .ok w →
      x.read ⟨typeName, v⟩ record = .ok a) : Makes v (f :: rest) x a rest := by
  have hfound {source : Json} (hhas : source.Has (f :: rest)) :
      m.settle [] (source.get? m.name) = .ok w := by
    rw [← hname, hhas f List.mem_cons_self, hsettle]
  refine ⟨?_, fun r hr => List.mem_cons_of_mem _ hr, fun source hhas => ?_,
    fun source record typeName hhas hholds => ?_⟩
  · rw [hschema, List.map_cons, hname]
    rfl
  · rw [hschema]
    exact List.forall_mem_singleton.mpr ⟨w, hfound hhas⟩
  · rw [hschema] at hholds
    obtain ⟨w', hw', hfind⟩ := hholds m List.mem_cons_self
    obtain rfl : w = w' := Except.ok.inj ((hfound hhas).symm.trans hw')
    exact hread record typeName hfind

/-- A member that its getter reads. -/
theorem member {c : Checker} {p : Presence} {get : Record → String → Except SchemaFault α} {a : α}
    {found w : Option Json} (hsettle : Member.settle ⟨name, c, p⟩ [] found = .ok w)
    (hget : ∀ record : Record, record.find name = .ok w → get record name = .ok a) :
    Makes v (⟨name, found⟩ :: rest) (Layout.member name c p get) a rest := by
  refine single rfl rfl hsettle fun record typeName hfind => ?_
  rw [read_member, hget record hfind]
  rfl

theorem text (s : String) : Makes v (.text name s :: rest) (Layout.text name) s rest :=
  member rfl fun _ => Record.string_ok

theorem textOrEmpty (s : String) :
    Makes v (.text name s :: rest) (Layout.textOrEmpty name) s rest :=
  member rfl fun _ => Record.string_ok

theorem optionalText (found : Option String) :
    Makes v (.nullable name (found.map .string) :: rest) (Layout.optionalText name) found rest := by
  refine member ?_ fun _ => Record.optString_written
  cases found <;> rfl

theorem int (n : Int64) : Makes v (.int name n :: rest) (Layout.int name) n rest := by
  refine member ?_ fun _ => Record.int_written
  rw [Member.settle_some (by simp), Checker.coerceAt_forcedInt_written]
  rfl

theorem size (n : UInt64) : Makes v (.size name n :: rest) (Layout.size name) n rest := by
  refine member ?_ fun _ => Record.uint_written
  rw [Member.settle_some (by simp), Checker.coerceAt_forcedUint_written]
  rfl

theorem flag (b : Bool) : Makes v (.flag name b :: rest) (Layout.flag name) b rest :=
  member rfl fun _ => Record.bool_ok

theorem texts (items : List String) :
    Makes v (.texts name items :: rest) (Layout.texts name) items rest := by
  refine member ?_ fun _ => Record.strings_texts
  rw [Member.settle_some (by simp), Checker.coerceAt_texts]
  rfl

theorem textsOrEmpty (items : List String) :
    Makes v (.texts name items :: rest) (Layout.textsOrEmpty name) items rest := by
  refine member ?_ fun _ => Record.strings_texts
  rw [Member.settle_some (by simp),
    Checker.coerceAt_nullable_of (by simp) (Checker.coerceAt_texts _ items)]
  rfl

theorem textMapOrEmpty (map : SortedMap String) :
    Makes v (.textMap name map :: rest) (Layout.textMapOrEmpty name) map rest := by
  refine member ?_ fun _ => Record.stringMap_textMap
  rw [Member.settle_some (by simp), Checker.coerceAt_textMap]
  rfl

/-- A text with a form of its own. -/
theorem word {f : String → Except ReadFault α} {s : String} {a : α} (hs : f s = .ok a) :
    Makes v (.text name s :: rest) (refine name (Layout.text name) f) a rest := by
  refine single rfl rfl rfl fun record typeName hfind => ?_
  rw [read_word hfind, hs]
  rfl

theorem systemId (id : SystemId) :
    Makes v (.text name id.text :: rest) (Layout.systemId name) id rest := by
  refine word ?_
  rw [SystemId.parse?, dif_pos id.valid]

end Makes

end Layout

/-! ## Embedded resources -/

/-- The value is an object that is read as a resource. -/
structure Kind.ReadsBack (k : Kind) (v : Version) (u : Json) (r : k.Value) : Prop where
  isObject : u.isObject = true
  read_eq : k.reader.read v u = .ok r

namespace Kind

variable {kind : Kind} {v : Version} {doc : kind.Value → Json} {record : Record} {name : String}

theorem ReadsBack.isNull_eq {u : Json} {r : kind.Value} (h : kind.ReadsBack v u r) :
    u.isNull = false := by
  obtain ⟨entries, rfl⟩ := Json.isObject_iff.mp h.isObject
  rfl

theorem ReadsBack.readField_eq {u : Json} {r : kind.Value} (h : kind.ReadsBack v u r)
    (hfind : record.find name = .ok (some u)) : kind.reader.readField v record name = .ok r := by
  rw [Reader.readField_eq hfind, h.read_eq]
  rfl

theorem ReadsBack.readOptionalField_eq {u : Json} {r : kind.Value} (h : kind.ReadsBack v u r)
    (hfind : record.find name = .ok (some u)) :
    kind.reader.readOptionalField v record name = .ok (some r) := by
  have hgiven : (some u).filter (fun u => !u.isNull) = some u := by
    simp [Option.filter, h.isNull_eq]
  rw [Reader.readOptionalField_eq hfind, hgiven]
  simp only [h.read_eq]
  rfl

/-- Documents in a list are read as the list of the resources. -/
theorem readList_back (hv : Version.v2_0 ≤ v) {rs : List kind.Value}
    (hdoc : ∀ r ∈ rs, kind.ReadsBack v (doc r) r) :
    kind.reader.readList v (.list (rs.map doc)) = .ok rs := by
  have hobjects : ∀ u ∈ rs.map doc, u.isObject = true := by
    intro u hu
    obtain ⟨r, hr, rfl⟩ := List.mem_map.mp hu
    exact (hdoc r hr).isObject
  rw [readList_objects hv hobjects]
  refine Reader.readItems_ok.mpr ?_
  clear hobjects
  induction rs with
  | nil => rfl
  | cons r rest ih =>
    have hrest := ih fun r hr => hdoc r (List.mem_cons_of_mem _ hr)
    exact mapM_cons_ok.mpr ⟨r, rest, (hdoc r List.mem_cons_self).read_eq, hrest, rfl⟩

end Kind

namespace Layout.Makes

variable {kind : Kind} {v : Version} {rest : List Field} {name : String}
  {doc : kind.Value → Json}

theorem one {u : Json} {r : kind.Value} (h : kind.ReadsBack v u r) :
    Makes v (.one name u :: rest) (Layout.one kind.reader name) r rest := by
  refine single rfl rfl (w := some u) ?_ fun record typeName hfind => h.readField_eq hfind
  show (Checker.coerceAt .object _ u).map some = _
  rw [Checker.coerceAt_object, if_pos h.isObject]
  rfl

/-- The building blocks of members that may be null differ in nothing but whether they may be
missing. -/
theorem orNull {p : Presence} {x : Layout (Option kind.Value)} {found : Option kind.Value}
    (hp : ∀ d, p ≠ .default d) (hschema : x.schema = [⟨name, .nullable .object, p⟩])
    (hread : ∀ scope record,
      x.read scope record = kind.reader.readOptionalField scope.version record name)
    (hdoc : ∀ r ∈ found, kind.ReadsBack v (doc r) r) :
    Makes v (.nullable name (found.map doc) :: rest) x found rest := by
  have hsettle {u : Json} (hu : (u.isNull || u.isObject) = true) :
      Member.settle ⟨name, .nullable .object, p⟩ [] (some u) = .ok (some u) := by
    cases p with
    | default d => exact absurd rfl (hp d)
    | _ =>
      show (Checker.coerceAt (.nullable .object) _ u).map some = _
      rw [Checker.coerceAt_nullable_object, if_pos hu]
      rfl
  cases found with
  | none =>
    refine single hschema rfl (hsettle rfl) fun record typeName hfind => ?_
    rw [hread, Reader.readOptionalField_eq hfind]
    rfl
  | some r =>
    have hr := hdoc r rfl
    refine single hschema rfl (hsettle (by simp [hr.isObject])) fun record typeName hfind => ?_
    rw [hread]
    exact hr.readOptionalField_eq hfind

theorem nullable (kind : Kind) {doc : kind.Value → Json} {found : Option kind.Value}
    (hdoc : ∀ r ∈ found, kind.ReadsBack v (doc r) r) :
    Makes v (.nullable name (found.map doc) :: rest) (Layout.nullable kind.reader name) found
      rest :=
  orNull (by simp) rfl (fun _ _ => rfl) hdoc

theorem optional (kind : Kind) {doc : kind.Value → Json} {found : Option kind.Value}
    (hdoc : ∀ r ∈ found, kind.ReadsBack v (doc r) r) :
    Makes v (.nullable name (found.map doc) :: rest) (Layout.optional kind.reader name) found
      rest :=
  orNull (by simp) rfl (fun _ _ => rfl) hdoc

theorem omissible (kind : Kind) {doc : kind.Value → Json} {found : Option kind.Value}
    (hdoc : ∀ r ∈ found, kind.ReadsBack v (doc r) r) :
    Makes v (.omissible name (found.map doc) :: rest) (Layout.omissible kind.reader name) found
      rest := by
  cases found with
  | none =>
    refine single rfl rfl (w := none) rfl fun record typeName hfind => ?_
    exact Reader.readOptionalField_eq hfind
  | some r =>
    have hr := hdoc r rfl
    refine single rfl rfl (w := some (doc r)) ?_ fun record typeName hfind =>
      hr.readOptionalField_eq hfind
    show (Checker.coerceAt .object _ (doc r)).map some = _
    rw [Checker.coerceAt_object, if_pos hr.isObject]
    rfl

theorem many (kind : Kind) (hv : Version.v2_0 ≤ v) {doc : kind.Value → Json} {rs : List kind.Value}
    (hdoc : ∀ r ∈ rs, kind.ReadsBack v (doc r) r) :
    Makes v (.many name (rs.map doc) :: rest) (Layout.many kind.reader name) rs rest := by
  have hobjects : ∀ u ∈ rs.map doc, u.isObject = true := by
    intro u hu
    obtain ⟨r, hr, rfl⟩ := List.mem_map.mp hu
    exact (hdoc r hr).isObject
  refine single rfl rfl (w := some (.list (rs.map doc))) ?_ fun record typeName hfind => ?_
  · show (Checker.coerceAt (.list .object) _ (.list (rs.map doc))).map some = _
    rw [Checker.coerceAt_objects, Json.firstOther_eq_none.mpr hobjects]
    rfl
  · show kind.reader.readListField v record name = .ok rs
    rw [Reader.readListField_eq hfind]
    exact mapError_ok.mpr (Kind.readList_back hv hdoc)

theorem pair (hv : Version.v2_0 ≤ v) {first second label plural : String} {u u' : Json}
    {r r' : kind.Value} (hr : kind.ReadsBack v u r) (hr' : kind.ReadsBack v u' r') :
    Makes v (.one first u :: .one second u' :: rest)
      (Layout.pair kind.reader first second label plural) (r, r') rest := by
  -- Each of the two members settles like that of `one`, but they are read as a list.
  have hfirst : Makes v (.one first u :: .one second u' :: rest)
      (Layout.one kind.reader first) r (.one second u' :: rest) := one hr
  have hsecond : Makes v (.one second u' :: rest) (Layout.one kind.reader second) r' rest := one hr'
  have hhas {source : Json} (h : source.Has (.one first u :: .one second u' :: rest)) :
      source.get? first = some u ∧ source.get? second = some u' :=
    ⟨h _ List.mem_cons_self, h _ (List.mem_cons_of_mem _ List.mem_cons_self)⟩
  refine ⟨rfl, fun f hf => List.mem_cons_of_mem _ (List.mem_cons_of_mem _ hf),
    fun source h => ?_, fun source record typeName h hholds => ?_⟩
  · exact List.forall_mem_cons.mpr ⟨hfirst.settles source h _ List.mem_cons_self,
      hsecond.settles source fun f hf => h f (List.mem_cons_of_mem _ hf)⟩
  · obtain ⟨a, -, ha, hfinda⟩ := hholds.requiredObject List.mem_cons_self
    obtain ⟨b, -, hb, hfindb⟩ :=
      hholds.requiredObject (List.mem_cons_of_mem _ List.mem_cons_self)
    obtain rfl : u = a := Option.some.inj ((hhas h).1.symm.trans ha)
    obtain rfl : u' = b := Option.some.inj ((hhas h).2.symm.trans hb)
    have hlist : kind.reader.readList v (.list [u, u']) = .ok [r, r'] := by
      rw [Kind.readList_objects hv (List.forall_mem_cons.mpr
        ⟨hr.isObject, List.forall_mem_singleton.mpr hr'.isObject⟩)]
      refine Reader.readItems_ok.mpr (mapM_cons_ok.mpr ⟨r, [r'], hr.read_eq, ?_, rfl⟩)
      exact mapM_cons_ok.mpr ⟨r', [], hr'.read_eq, rfl, rfl⟩
    simp only [Layout.pair, Record.value_ok hfinda, Record.value_ok hfindb, ok_mapError, bind,
      Except.bind, hlist]
    rfl

end Layout.Makes

/-! ## Whole documents -/

/-- An object with the fields is read as what the layout makes of them, whatever else it has. -/
theorem Kind.read_of_makes {k : Kind} {v : Version} (hv : Version.v2_0 ≤ v) {fields : List Field}
    {r : k.Value} (h : Layout.Makes v fields k.layout r []) {source : Json}
    (hobject : source.isObject = true) (hhas : source.Has fields) :
    k.reader.read v source = .ok r := by
  obtain ⟨entries, rfl⟩ := Json.isObject_iff.mp hobject
  obtain ⟨values, hvalues⟩ : ∃ values, Checker.checkMembers k.schema [] entries .empty =
    .ok values := Checker.checkMembers_ok (h.settles _ hhas)
  have hcheck : k.schema.check (.object entries) = .ok ⟨k.schema.map Member.name, values⟩ :=
    congrArg (Except.map (Record.mk (k.schema.map Member.name))) hvalues
  rw [read_object k hv rfl, Layout.readMembers, checkFields]
  show ((k.schema.check _).mapError _).bind _ = _
  rw [hcheck]
  exact h.reads _ _ _ hhas (Schema.check_holds k.names_nodup hcheck)

/-- A document is read back if the layout makes the resource of its fields. -/
theorem Kind.ReadsBack.of_makes {k : Kind} {v : Version} (hv : Version.v2_0 ≤ v)
    {fields : List Field} {a r : k.Value} (h : Layout.Makes v fields k.layout a [])
    (ha : a = r) : k.ReadsBack v (.ofFields fields) r := by
  subst ha
  have hnames : fields.map Field.name = k.schema.map Member.name :=
    h.names.trans (List.append_nil _)
  exact ⟨rfl, read_of_makes hv h rfl (Json.ofFields_has (hnames ▸ k.names_nodup))⟩

section Documents

variable {v : Version} (hv : Version.v2_0 ≤ v)
include hv

open Layout (Makes)

theorem Zone.readsBack (r : Zone) : Kind.zone.ReadsBack v r.document r :=
  .of_makes hv (Makes.map _ (.text _) |>.seq (.textOrEmpty _) |>.seq (.textOrEmpty _)) rfl

theorem Vlan.readsBack (r : Vlan) : Kind.vlan.ReadsBack v r.document r :=
  .of_makes hv (Makes.map _ (.int _) |>.seq (.text _) |>.seq (.textOrEmpty _) |>.seq (.text _)
    |>.seq (.int _) |>.seq (.int _) |>.seq (.flag _) |>.seq (.textOrEmpty _)
    |>.seq (.textOrEmpty _)) rfl

theorem Fabric.readsBack (r : Fabric) : Kind.fabric.ReadsBack v r.document r :=
  .of_makes hv (Makes.map _ (.text _) |>.seq (.int _) |>.seq (.text _) |>.seq (.textOrEmpty _)
    |>.seq (.many .vlan hv fun r _ => Vlan.readsBack hv r)) rfl

theorem Subnet.readsBack (r : Subnet) : Kind.subnet.ReadsBack v r.document r :=
  .of_makes hv (Makes.map _ (.text _) |>.seq (.int _) |>.seq (.text _) |>.seq (.text _)
    |>.seq (.textOrEmpty _) |>.seq (.text _) |>.seq (.one (Vlan.readsBack hv r.vlan))
    |>.seq (.textsOrEmpty _)) rfl

theorem Space.readsBack (r : Space) : Kind.space.ReadsBack v r.document r :=
  .of_makes hv (Makes.map _ (.text _) |>.seq (.int _) |>.seq (.text _)
    |>.seq (.many .subnet hv fun r _ => Subnet.readsBack hv r)) rfl

theorem StaticRoute.readsBack (r : StaticRoute) : Kind.staticRoute.ReadsBack v r.document r :=
  .of_makes hv (Makes.map _ (.text _) |>.seq (.int _)
    |>.seq (.pair hv (Subnet.readsBack hv r.source) (Subnet.readsBack hv r.destination))
    |>.seq (.text _) |>.seq (.int _)) rfl

theorem Filesystem.readsBack (r : Filesystem) : Kind.filesystem.ReadsBack v r.document r :=
  .of_makes hv (Makes.map _ (.text _) |>.seq (.textOrEmpty _) |>.seq (.textOrEmpty _)
    |>.seq (.textOrEmpty _)) rfl

theorem Partition.readsBack (r : Partition) : Kind.partition.ReadsBack v r.document r :=
  .of_makes hv (Makes.map _ (.text _) |>.seq (.int _) |>.seq (.text _) |>.seq (.textOrEmpty _)
    |>.seq (.text _) |>.seq (.size _)
    |>.seq (.optional .filesystem fun r _ => Filesystem.readsBack hv r)) rfl

theorem BlockDevice.readsBack (r : BlockDevice) : Kind.blockDevice.ReadsBack v r.document r :=
  .of_makes hv (Makes.map _ (.text _) |>.seq (.int _) |>.seq (.textOrEmpty _) |>.seq (.text _)
    |>.seq (.textOrEmpty _) |>.seq (.textOrEmpty _) |>.seq (.text _) |>.seq (.text _)
    |>.seq (.texts _) |>.seq (.size _) |>.seq (.size _) |>.seq (.size _)
    |>.seq (.many .partition hv fun r _ => Partition.readsBack hv r)) rfl

theorem StoredFile.readsBack (r : StoredFile) : Kind.storedFile.ReadsBack v r.document r :=
  .of_makes hv (Makes.map _ (.text _) |>.seq (.text _) |>.seq (.text _)
    |>.seq (.optionalText _)) rfl

/-! ## Modes, sub-architectures and releases -/

omit hv

/-- A mode that can be written is the one that its text names. -/
theorem LinkMode.ofText_text {mode : LinkMode} (h : mode.Writable) : ofText mode.text = mode := by
  cases mode with
  | other name =>
    have hnot : ∀ known ∈ [dhcp, static, linkUp, auto], lowered name ≠ known.text :=
      fun known hknown heq => h (List.mem_map.mpr ⟨known, hknown, heq.symm⟩)
    simp only [List.forall_mem_cons, text] at hnot
    simp [text, ofText, hnot]
  | _ => rfl

/-- Sub-architectures that can be written are the ones in their text. -/
theorem BootImage.namesIn_joined {r : BootImage} (h : r.Writable) :
    namesIn (Text.joined "," r.subArchitectures.toList) = r.subArchitectures := by
  have hpieces : ((Text.split (· == ',') (Text.joined "," r.subArchitectures.toList)).map
      Text.trim).filter (fun name => !name.isEmpty) = r.subArchitectures.toList := by
    by_cases hnone : r.subArchitectures.toList = []
    · rw [hnone]
      rfl
    · have hsplit : Text.split (· == ',') (Text.joined "," r.subArchitectures.toList) =
          r.subArchitectures.toList :=
        Text.split_joined rfl hnone fun name hname => (h name hname).2.2
      have htrim : r.subArchitectures.toList.map Text.trim = r.subArchitectures.toList := by
        refine (List.map_congr_left (g := fun s => s) fun name hname => ?_).trans (List.map_id' _)
        exact (h name hname).2.1
      rw [hsplit, htrim]
      refine List.filter_eq_self.mpr fun name hname => ?_
      simp [(h name hname).1]
  rw [namesIn, hpieces, SortedSet.ofList_toList]

/-- A release that is written has no suffix. -/
theorem VersionInfo.numericPart_text (v : Version) : numericPart v.text = v.text := by
  have hplain : ∀ c ∈ v.text.toList, (!(c == '~' || c == '+' || c == '-' || c == ' ')) = true := by
    refine Version.of_mem_text (fun c hc => ?_) rfl
    exact Numeral.of_isDigit
      (P := fun c => (!(c == '~' || c == '+' || c == '-' || c == ' ')) = true) (by decide) hc
  rw [numericPart, List.takeWhile_eq_self_iff.mpr hplain, String.ofList_toList]

theorem Layout.Makes.releaseText {rest : List Field} {name s : String} {release : Version}
    (h : Version.parse? (VersionInfo.numericPart s) = some release) :
    Makes v (.text name s :: rest) (VersionInfo.release name) release rest := by
  refine .word ?_
  rw [h]

theorem Layout.Makes.release {rest : List Field} {name : String} (release : Version) :
    Makes v (.text name release.text :: rest) (VersionInfo.release name) release rest := by
  refine .releaseText ?_
  rw [VersionInfo.numericPart_text, Version.parse?_text]

include hv

theorem Link.readsBack (r : Link) (hr : r.Writable) : Kind.link.ReadsBack v r.document r := by
  refine .of_makes hv (Makes.map _ (.int _) |>.seq (.map _ (.text _))
    |>.seq (.omissible .subnet fun r _ => Subnet.readsBack hv r) |>.seq (.textOrEmpty _)) ?_
  rw [LinkMode.ofText_text hr]

theorem Interface.readsBack (r : Interface) (hr : r.Writable) :
    Kind.interface.ReadsBack v r.document r :=
  .of_makes hv (Makes.map _ (.text _) |>.seq (.int _) |>.seq (.text _) |>.seq (.text _)
    |>.seq (.flag _) |>.seq (.textsOrEmpty _)
    |>.seq (.nullable .vlan fun r _ => Vlan.readsBack hv r)
    |>.seq (.many .link hv fun l hl => Link.readsBack hv l (hr l hl)) |>.seq (.textOrEmpty _)
    |>.seq (.int _) |>.seq (.texts _) |>.seq (.texts _)) rfl

theorem Machine.readsBack (r : Machine) (hr : r.Writable) : Kind.machine.ReadsBack v r.document r :=
  .of_makes hv (Makes.map _ (.text _) |>.seq (.systemId _) |>.seq (.text _) |>.seq (.text _)
    |>.seq (.texts _) |>.seq (.textOrEmpty _) |>.seq (.textMapOrEmpty _) |>.seq (.text _)
    |>.seq (.text _) |>.seq (.textOrEmpty _) |>.seq (.int _) |>.seq (.int _) |>.seq (.texts _)
    |>.seq (.text _) |>.seq (.text _) |>.seq (.textOrEmpty _)
    |>.seq (.optional .interface fun i hi => Interface.readsBack hv i (hr.1 i hi))
    |>.seq (.many .interface hv fun i hi => Interface.readsBack hv i (hr.2 i hi))
    |>.seq (.one (Zone.readsBack hv r.zone))
    |>.seq (.many .blockDevice hv fun d _ => BlockDevice.readsBack hv d)
    |>.seq (.many .blockDevice hv fun d _ => BlockDevice.readsBack hv d)) rfl

theorem Device.readsBack (r : Device) (hr : r.Writable) : Kind.device.ReadsBack v r.document r :=
  .of_makes hv (Makes.map _ (.text _) |>.seq (.systemId _) |>.seq (.text _) |>.seq (.text _)
    |>.seq (.textOrEmpty _) |>.seq (.textOrEmpty _) |>.seq (.texts _)
    |>.seq (.many .interface hv fun i hi => Interface.readsBack hv i (hr i hi))
    |>.seq (.one (Zone.readsBack hv r.zone))) rfl

theorem BootImage.readsBack (r : BootImage) (hr : r.Writable) :
    Kind.bootImage.ReadsBack v r.document r := by
  refine .of_makes hv (Makes.map _ (.text _) |>.seq (.int _) |>.seq (.text _) |>.seq (.text _)
    |>.seq (.text _) |>.seq (.map _ (.textOrEmpty _)) |>.seq (.textOrEmpty _)) ?_
  rw [BootImage.namesIn_joined hr]

theorem VersionInfo.readsBack (r : VersionInfo) : Kind.versionInfo.ReadsBack v r.document r := by
  refine .of_makes hv (Makes.map _ (.release _) |>.seq (.textOrEmpty _)
    |>.seq (.map _ (.texts _))) ?_
  rw [SortedSet.ofList_toList]

theorem Kind.readsBack : (k : Kind) → (r : k.Value) → k.Writable r → k.ReadsBack v (k.document r) r
  | zone, r, _ => Zone.readsBack hv r
  | vlan, r, _ => Vlan.readsBack hv r
  | fabric, r, _ => Fabric.readsBack hv r
  | subnet, r, _ => Subnet.readsBack hv r
  | space, r, _ => Space.readsBack hv r
  | staticRoute, r, _ => StaticRoute.readsBack hv r
  | link, r, hr => Link.readsBack hv r hr
  | interface, r, hr => Interface.readsBack hv r hr
  | filesystem, r, _ => Filesystem.readsBack hv r
  | partition, r, _ => Partition.readsBack hv r
  | blockDevice, r, _ => BlockDevice.readsBack hv r
  | machine, r, hr => Machine.readsBack hv r hr
  | device, r, hr => Device.readsBack hv r hr
  | storedFile, r, _ => StoredFile.readsBack hv r
  | bootImage, r, hr => BootImage.readsBack hv r hr
  | versionInfo, r, _ => VersionInfo.readsBack hv r

end Documents

namespace Kind

/-- **Every resource that can be written is read back** from its document, alone or in a list, at
any version with a reader. -/
theorem read_document (k : Kind) {v : Version} (hv : Version.v2_0 ≤ v) :
    (∀ r, k.Writable r → k.reader.read v (k.document r) = .ok r) ∧
    ∀ rs, (∀ r ∈ rs, k.Writable r) →
      k.reader.readList v (.list (rs.map k.document)) = .ok rs :=
  ⟨fun r hr => (readsBack hv k r hr).read_eq,
    fun _ hrs => readList_back hv fun r hr => readsBack hv k r (hrs r hr)⟩

/-- An interface with the least of all ids, one link without a subnet and one with a mode of its
own. -/
def bareInterface : Interface where
  resourceUri := ""
  id := Int64.minValue
  name := "eth0"
  kind := "physical"
  enabled := false
  tags := []
  vlan := none
  links := [⟨-1, .linkUp, none, ""⟩, ⟨0, .other "Engineered", none, "10.0.0.1"⟩]
  macAddress := ""
  effectiveMtu := Int64.maxValue
  parents := ["bond0", "bond0"]
  children := []

/-- A boot image for two sub-architectures. -/
def plainBootImage : BootImage :=
  ⟨"", 7, "ubuntu/xenial", "Synced", "amd64/ga-16.04", .ofList ["hwe-p", "generic"], ""⟩

theorem read_document_bare :
    (Version.v2_0 ≤ ⟨2, 9, 1⟩ ∧ interface.Writable bareInterface ∧
      interface.reader.read ⟨2, 9, 1⟩ (interface.document bareInterface) = .ok bareInterface) ∧
    (∀ r ∈ [plainBootImage, plainBootImage], bootImage.Writable r) ∧
      bootImage.reader.readList ⟨2, 9, 1⟩
          (.list ([plainBootImage, plainBootImage].map bootImage.document)) =
        .ok [plainBootImage, plainBootImage] := by
  have hv : Version.v2_0 ≤ ⟨2, 9, 1⟩ := by decide
  have hinterface : bareInterface.Writable := by decide
  have himages : ∀ r ∈ [plainBootImage, plainBootImage], r.Writable := by decide
  exact ⟨⟨hv, hinterface, (read_document interface hv).1 bareInterface hinterface⟩, himages,
    (read_document bootImage hv).2 _ himages⟩

end Kind

end RegionClient
