import RegionClient.Proofs.Members

set_option autoImplicit false

/-! # Where a check fails

A fault names a place and says what is wrong there. `Checker.FailsAt` follows a failing check down
to that place, with one constructor for each way in which a shape can be missed, and
`Checker.coerceAt_failsAt` says that a check fails in no other way.

What comes of it is that a fault can be believed: a checker is assigned to the place it names, and
either the value at that place is one that this checker rejects, or the place is that of a member
which must be there and is not (`Checker.faults_locate`).
-/

namespace RegionClient

/-! ## Values and members -/

/-- The value at the end of a path. -/
inductive Json.LeadsTo : Json → Path → Json → Prop where
  | here (v : Json) : LeadsTo v [] v
  | item {items : List Json} {index : Nat} {path : Path} {u w : Json} (hu : items[index]? = some u)
      (h : LeadsTo u path w) : LeadsTo (.list items) (.item index :: path) w
  | member {entries : List (String × Json)} {key : String} {path : Path} {u w : Json}
      (hu : (key, u) ∈ entries) (h : LeadsTo u path w) :
      LeadsTo (.object entries) (.member key :: path) w

theorem Schema.check_error {schema : Schema} {source : Json} {fault : SchemaFault} :
    schema.check source = .error fault ↔ (Checker.fields schema).coerce source = .error fault := by
  cases source with
  | object entries => exact map_error.trans map_error.symm
  | _ =>
    simp [check, Json.expectObject, Except.bind, Checker.coerce, Checker.coerceAt, Checker.expected]

/-- A record holds what the checker of its schema makes of the source. -/
theorem Schema.check_ok {schema : Schema} {source : Json} {record : Record} :
    schema.check source = .ok record ↔ ∃ values, record = ⟨schema.map Member.name, values⟩ ∧
      (Checker.fields schema).coerce source = .ok (.object values.entries) := by
  cases source with
  | object entries =>
    constructor
    · intro h
      obtain ⟨values, hvalues, rfl⟩ := Checker.map_ok h
      refine ⟨values, rfl, ?_⟩
      rw [Checker.coerce, Checker.coerceAt, hvalues]
      rfl
    · rintro ⟨values, rfl, h⟩
      obtain ⟨values', hvalues, hentries⟩ := Checker.map_ok h
      obtain rfl : values' = values := SortedMap.ext (Json.object.inj hentries)
      show (Checker.checkMembers schema [] entries .empty).map _ = _
      rw [hvalues]
      rfl
  | _ =>
    constructor
    · intro h
      cases h
    · rintro ⟨values, -, h⟩
      cases h

/-- The second checker accepts what the first does, at any place, and gives the same strict form. -/
def Checker.Grants (c d : Checker) : Prop :=
  ∀ path path' v w, c.coerceAt path v = .ok w → d.coerceAt path' v = .ok w

/-- What a checker accepts, and the strict form of it, does not depend on the place. -/
def Checker.Placeless (c : Checker) : Prop :=
  ∀ path path' v w, c.coerceAt path v = .ok w → c.coerceAt path' v = .ok w

namespace Member

/-- Two declarations of one member, of which the second accepts what the first does. -/
structure Grants (m m' : Member Checker) : Prop where
  name : m'.name = m.name
  presence : m'.presence = m.presence
  checker : m.checker.Grants m'.checker

variable {m m' : Member Checker} {path path' : Path} {found w : Option Json} {fault : SchemaFault}

theorem Grants.settle (hm : m.Grants m') (h : m.settle path found = .ok w) :
    m'.settle path' found = .ok w := by
  obtain ⟨_, c, _⟩ := m
  obtain ⟨name, d, p⟩ := m'
  obtain ⟨rfl, rfl, hd⟩ := hm
  have hvalue : ∀ {u}, (c.coerceAt (path ++ [.member name]) u).map some = .ok w →
      (d.coerceAt (path' ++ [.member name]) u).map some = .ok w := by
    intro u hu
    obtain ⟨u', hu', rfl⟩ := Checker.map_ok hu
    rw [hd _ _ _ _ hu']
    rfl
  cases p <;> rcases found with _ | (_ | _) <;> first | exact hvalue h | exact h | cases h

/-- A member fails if it is missing and must not be, or if its checker rejects its value. -/
theorem settle_error (h : m.settle path found = .error fault) :
    (m.presence = .required ∧ found = none ∧
      fault = .missing (path ++ [.member m.name]) m.checker.expected) ∨
    ∃ u, found = some u ∧ m.checker.coerceAt (path ++ [.member m.name]) u = .error fault := by
  obtain ⟨name, c, presence⟩ := m
  have hvalue : ∀ {u}, (c.coerceAt (path ++ [.member name]) u).map some = .error fault →
      c.coerceAt (path ++ [.member name]) u = .error fault := map_error.mp
  cases found with
  | none =>
    cases presence with
    | required => exact .inl ⟨rfl, rfl, (Except.error.inj h).symm⟩
    | _ => cases h
  | some u =>
    refine .inr ⟨u, rfl, ?_⟩
    cases presence <;> cases u <;> first | exact hvalue h | cases h

end Member

namespace Checker

/-! ## Outer shapes -/

mutual

/-- Whether a value has the outer shape that a checker wants. The items of a list and the entries
of an object are not looked at. -/
def fits (c : Checker) (v : Json) : Bool :=
  match c with
  | string => v.string?.isSome
  | int => (int? v).isSome
  | forcedInt => (forcedInt? v).isSome
  | uint => (uint? v).isSome
  | forcedUint => (forcedUint? v).isSome
  | bool => v.bool?.isSome
  | null => v.isNull
  | any => true
  | list _ => v.list?.isSome
  | stringMap _ | fields _ => v.isObject
  | oneOf alternatives => fitsAny alternatives v

/-- Whether a value has the outer shape of one of several checkers. -/
def fitsAny (alternatives : List Checker) (v : Json) : Bool :=
  match alternatives with
  | [] => false
  | c :: cs => fits c v || fitsAny cs v

end

theorem fits_oneOf (cs : List Checker) (v : Json) : (oneOf cs).fits v = cs.any (·.fits v) := by
  rw [fits]
  induction cs with
  | nil => rfl
  | cons c rest ih => rw [fitsAny, ih, List.any_cons]

variable {c d : Checker} {cs : List Checker} {members : List (Member Checker)} {path : Path}
  {v w : Json} {fault : SchemaFault}

/-! ## Several checkers -/

/-- The fault of a checker, if its place reads differently from that of the value. -/
def deeper? (path : Path) (v : Json) (c : Checker) : Option SchemaFault :=
  match c.coerceAt path v with
  | .ok _ => none
  | .error fault => if fault.path.text = path.text then none else some fault

theorem deeper?_eq_some :
    deeper? path v c = some fault ↔
      c.coerceAt path v = .error fault ∧ fault.path.text ≠ path.text := by
  unfold deeper?
  cases c.coerceAt path v with
  | ok w => simp
  | error later =>
    rw [Option.ite_none_left_eq_some, Option.some.injEq, Except.error.injEq]
    constructor
    · rintro ⟨htext, rfl⟩
      exact ⟨rfl, htext⟩
    · rintro ⟨rfl, htext⟩
      exact ⟨htext, rfl⟩

/-- If none of several checkers accepts a value, the first deeper fault is kept. -/
theorem coerceFirst_error {found : Option SchemaFault} (h : coerceFirst cs path v = .error found) :
    (∀ c ∈ cs, ∃ fault, c.coerceAt path v = .error fault) ∧
      found = cs.findSome? (deeper? path v) := by
  induction cs generalizing found with
  | nil =>
    obtain rfl := Except.error.inj h
    exact ⟨List.forall_mem_nil _, rfl⟩
  | cons c rest ih =>
    rw [coerceFirst] at h
    cases hc : c.coerceAt path v with
    | ok w => simp [hc] at h
    | error fault =>
      cases hrest : coerceFirst rest path v with
      | ok w => simp [hc, hrest] at h
      | error later =>
        obtain ⟨hall, rfl⟩ := ih hrest
        simp only [hc, hrest, Except.error.injEq] at h
        refine ⟨List.forall_mem_cons.mpr ⟨⟨fault, hc⟩, hall⟩, ?_⟩
        rw [List.findSome?_cons, deeper?, hc, ← h]
        by_cases htext : fault.path.text = path.text <;> simp only [htext, if_true, if_false]

/-- What a choice says if none of the alternatives accepts: the first deeper fault, or else the
shapes that were expected. -/
theorem coerceAt_oneOf_error (h : coerceAt (.oneOf cs) path v = .error fault) :
    (∀ c ∈ cs, ∃ fault, c.coerceAt path v = .error fault) ∧
      fault = (cs.findSome? (deeper? path v)).getD (.mismatch path (expected (.oneOf cs)) v) := by
  rw [coerceAt] at h
  cases hfirst : coerceFirst cs path v with
  | ok w => simp [hfirst] at h
  | error found =>
    obtain ⟨hall, rfl⟩ := coerceFirst_error hfirst
    refine ⟨hall, ?_⟩
    rw [hfirst] at h
    cases hfound : cs.findSome? (deeper? path v) with
    | none =>
      rw [hfound] at h
      exact (Except.error.inj h).symm
    | some deeper =>
      rw [hfound] at h
      exact (Except.error.inj h).symm

/-! ## Two checks side by side -/

/-- What a list of declarations accepts, another list of them accepts, member by member. -/
theorem checkMembers_grants {members' : List (Member Checker)} {path' : Path}
    {entries : List (String × Json)} {checked values : SortedMap Json}
    (hmembers : List.Forall₂ Member.Grants members members')
    (h : checkMembers members path entries checked = .ok values) :
    checkMembers members' path' entries checked = .ok values := by
  induction hmembers generalizing checked with
  | nil => exact h
  | cons hm _ ih =>
    rw [checkMembers_cons] at h ⊢
    obtain ⟨u, hu, h⟩ := bind_ok.mp h
    rw [hm.name, hm.settle hu]
    exact ih h

namespace Grants

variable {item item' : Checker}

theorem trans {e : Checker} (h : c.Grants d) (h' : d.Grants e) : c.Grants e :=
  fun path path' v w hw => h' path' path' v w (h path path' v w hw)

theorem list (h : item.Grants item') : (Checker.list item).Grants (.list item') := by
  intro path path' v w hw
  cases v with
  | list items =>
    obtain ⟨ws, hws, rfl⟩ := map_ok hw
    have hitems := coerceItems_forall₂ (R := fun u w => ∀ path, item'.coerceAt path u = .ok w)
      (fun hu path => h _ path _ _ hu) hws
    rw [coerceAt, coerceItems_of_forall₂ hitems]
    rfl
  | _ => cases hw

theorem stringMap (h : item.Grants item') :
    (Checker.stringMap item).Grants (.stringMap item') := by
  intro path path' v w hw
  cases v with
  | object entries =>
    obtain ⟨es, hes, rfl⟩ := map_ok hw
    have hentries := coerceEntries_forall₂ (R := fun u w => ∀ path, item'.coerceAt path u = .ok w)
      (fun hu path => h _ path _ _ hu) hes
    rw [coerceAt, coerceEntries_of_forall₂ hentries]
    rfl
  | _ => cases hw

/-- The alternatives must not accept more either, for the first to accept counts. -/
theorem oneOf {ds : List Checker} (h : List.Forall₂ (fun c d => c.Grants d ∧ d.Grants c) cs ds) :
    (Checker.oneOf cs).Grants (.oneOf ds) := by
  intro path path' v w hw
  have hfirst : coerceFirst ds path' v = .ok w := by
    replace hw := coerceAt_oneOf_ok hw
    induction h with
    | nil => cases hw
    | @cons c d _ _ hd _ ih =>
      rcases coerceFirst_cons_ok hw with hc | ⟨⟨fault, hc⟩, hlater⟩
      · simp only [coerceFirst, hd.1 _ path' _ _ hc]
      · cases hd' : d.coerceAt path' v with
        | ok u =>
          rw [hd.2 _ path _ _ hd'] at hc
          cases hc
        | error fault' => simp only [coerceFirst, hd', ih hlater]
  rw [coerceAt, hfirst]

theorem fields {members' : List (Member Checker)} (h : List.Forall₂ Member.Grants members members') :
    (Checker.fields members).Grants (.fields members') := by
  intro path path' v w hw
  cases v with
  | object entries =>
    obtain ⟨values, hvalues, rfl⟩ := map_ok hw
    rw [coerceAt, checkMembers_grants h hvalues]
    rfl
  | _ => cases hw

end Grants

/-! ## Acceptance at other places

A path is carried along for the faults only. -/

/-- **A value is accepted everywhere or nowhere**, and has one strict form. -/
theorem placeless (c : Checker) : c.Placeless := by
  induction c using induct with
  | string | bool | null =>
    intro path path' v w h
    cases v <;> first | exact h | cases h
  | any => exact fun path path' v w h => h
  | int | forcedInt | uint | forcedUint =>
    intro path path' v w h
    obtain ⟨n, hn, rfl⟩ := integerOr_ok h
    exact integerOr_some hn ..
  | list item ih => exact Grants.list ih
  | stringMap item ih => exact Grants.stringMap ih
  | oneOf cs ih => exact Grants.oneOf (List.forall₂_same.mpr fun c hc => ⟨ih c hc, ih c hc⟩)
  | fields members ih => exact Grants.fields (List.forall₂_same.mpr fun m hm => ⟨rfl, rfl, ih m hm⟩)

/-- A checker does not accept a value. -/
def Rejects (c : Checker) (v : Json) : Prop :=
  ∃ fault, c.coerce v = .error fault

/-- What is rejected at one place is rejected at every place. -/
theorem rejects_iff : c.Rejects v ↔ ∃ fault, c.coerceAt path v = .error fault := by
  have move : ∀ {path path' : Path} {fault}, c.coerceAt path v = .error fault →
      ∃ fault', c.coerceAt path' v = .error fault' := by
    intro path path' fault h
    cases hother : c.coerceAt path' v with
    | error fault' => exact ⟨fault', rfl⟩
    | ok w =>
      rw [c.placeless path' path v w hother] at h
      cases h
  constructor
  · rintro ⟨fault, h⟩
    exact move h
  · rintro ⟨fault, h⟩
    exact move h

theorem rejects_of_coerceAt (h : c.coerceAt path v = .error fault) : c.Rejects v :=
  rejects_iff.mpr ⟨fault, h⟩

/-! ## How a check fails -/

/-- The check of a value at a path ends in a fault: the value has not the outer shape, or there is a
fault inside it, or one of its members is missing. A choice fails with the fault of an alternative
that is named for a place inside, and with one of its own if all alternatives name the place of
the value itself. -/
inductive FailsAt : Checker → Path → Json → SchemaFault → Prop where
  | shape {c : Checker} {path : Path} {v : Json} (hrejects : c.Rejects v)
      (hfits : c.fits v = false) : FailsAt c path v (.mismatch path c.expected v)
  | item {item : Checker} {path : Path} {before after : List Json} {u : Json} {fault : SchemaFault}
      (h : FailsAt item (path ++ [.item before.length]) u fault) :
      FailsAt (.list item) path (.list (before ++ u :: after)) fault
  | entry {item : Checker} {path : Path} {entries : List (String × Json)} {key : String} {u : Json}
      {fault : SchemaFault} (hu : (key, u) ∈ entries)
      (h : FailsAt item (path ++ [.member key]) u fault) :
      FailsAt (.stringMap item) path (.object entries) fault
  | member {members : List (Member Checker)} {m : Member Checker} {path : Path}
      {entries : List (String × Json)} {u : Json} {fault : SchemaFault} (hm : m ∈ members)
      (hu : findEntry m.name entries = some u)
      (h : FailsAt m.checker (path ++ [.member m.name]) u fault) :
      FailsAt (.fields members) path (.object entries) fault
  | missing {members : List (Member Checker)} {m : Member Checker} {path : Path}
      {entries : List (String × Json)} (hm : m ∈ members) (hrequired : m.presence = .required)
      (hnone : findEntry m.name entries = none) :
      FailsAt (.fields members) path (.object entries)
        (.missing (path ++ [.member m.name]) m.checker.expected)
  | alternative {cs : List Checker} {c : Checker} {path : Path} {v : Json} {fault : SchemaFault}
      (hc : c ∈ cs) (htext : fault.path.text ≠ path.text) (h : FailsAt c path v fault) :
      FailsAt (.oneOf cs) path v fault
  | choice {cs : List Checker} {path : Path} {v : Json} {faults : Checker → SchemaFault}
      (hrejects : (oneOf cs).Rejects v) (htext : ∀ c ∈ cs, (faults c).path.text = path.text)
      (h : ∀ c ∈ cs, FailsAt c path v (faults c)) :
      FailsAt (.oneOf cs) path v (.mismatch path (expected (.oneOf cs)) v)

theorem integerOr_error {found : Option Int} {expected : String}
    (h : integerOr found path expected v = .error fault) :
    found = none ∧ fault = .mismatch path expected v := by
  cases found with
  | none => exact ⟨rfl, (Except.error.inj h).symm⟩
  | some n => cases h

theorem coerceItems_error {item : Path → Json → Except SchemaFault Json} {index : Nat}
    {items : List Json} (h : coerceItems item path index items = .error fault) :
    ∃ before u after, items = before ++ u :: after ∧
      item (path ++ [.item (index + before.length)]) u = .error fault := by
  induction items generalizing index with
  | nil => cases h
  | cons u rest ih =>
    rcases bind_error.mp h with hu | ⟨w, -, h⟩
    · exact ⟨[], u, rest, rfl, hu⟩
    · rcases bind_error.mp h with hrest | ⟨ws, -, h⟩
      · obtain ⟨before, u', after, rfl, hu'⟩ := ih hrest
        refine ⟨u :: before, u', after, rfl, ?_⟩
        rwa [List.length_cons, Nat.add_comm before.length, ← Nat.add_assoc]
      · cases h

theorem coerceEntries_error {item : Path → Json → Except SchemaFault Json}
    {entries : List (String × Json)} (h : coerceEntries item path entries = .error fault) :
    ∃ key u, (key, u) ∈ entries ∧ item (path ++ [.member key]) u = .error fault := by
  induction entries with
  | nil => cases h
  | cons e rest ih =>
    rcases bind_error.mp h with hu | ⟨w, -, h⟩
    · exact ⟨e.1, e.2, List.mem_cons_self, hu⟩
    · rcases bind_error.mp h with hrest | ⟨es, -, h⟩
      · obtain ⟨key, u, hmem, hu⟩ := ih hrest
        exact ⟨key, u, List.mem_cons_of_mem e hmem, hu⟩
      · cases h

/-- A check stops at the first member that does not settle. -/
theorem checkMembers_error {entries : List (String × Json)} {checked : SortedMap Json}
    (h : checkMembers members path entries checked = .error fault) :
    ∃ before m after, members = before ++ m :: after ∧
      (∀ b ∈ before, ∃ w, b.settle path (findEntry b.name entries) = .ok w) ∧
        m.settle path (findEntry m.name entries) = .error fault := by
  induction members generalizing checked with
  | nil => cases h
  | cons m rest ih =>
    rw [checkMembers_cons] at h
    rcases bind_error.mp h with hsettle | ⟨w, hw, h⟩
    · exact ⟨[], m, rest, rfl, List.forall_mem_nil _, hsettle⟩
    · obtain ⟨before, m', after, rfl, hbefore, hsettle⟩ := ih h
      exact ⟨m :: before, m', after, rfl, List.forall_mem_cons.mpr ⟨⟨w, hw⟩, hbefore⟩, hsettle⟩

/-- A check fails in one of these ways only. -/
theorem coerceAt_failsAt (h : c.coerceAt path v = .error fault) : c.FailsAt path v fault := by
  have shape : ∀ {c : Checker} {path : Path} {v : Json} {fault : SchemaFault},
      c.coerceAt path v = .error fault → fault = .mismatch path c.expected v →
      c.fits v = false → c.FailsAt path v fault := by
    rintro c path v fault h rfl hfits
    exact .shape (rejects_of_coerceAt h) hfits
  induction c using induct generalizing path v fault with
  | string | bool | null =>
    cases v <;> first | exact shape h (Except.error.inj h).symm rfl | cases h
  | any => cases h
  | int | forcedInt | uint | forcedUint =>
    obtain ⟨hnone, hfault⟩ := integerOr_error h
    exact shape h hfault (by rw [fits, hnone]; rfl)
  | list item ih =>
    cases v with
    | list items =>
      obtain ⟨before, u, after, rfl, hu⟩ := coerceItems_error (map_error.mp h)
      rw [Nat.zero_add] at hu
      exact .item (ih hu)
    | _ => exact shape h (Except.error.inj h).symm rfl
  | stringMap item ih =>
    cases v with
    | object entries =>
      obtain ⟨key, u, hmem, hu⟩ := coerceEntries_error (map_error.mp h)
      exact .entry hmem (ih hu)
    | _ => exact shape h (Except.error.inj h).symm rfl
  | oneOf cs ih =>
    have hrejects : (oneOf cs).Rejects v := rejects_of_coerceAt h
    obtain ⟨hall, rfl⟩ := coerceAt_oneOf_error h
    cases hfound : cs.findSome? (deeper? path v) with
    | some deeper =>
      obtain ⟨c, hc, hdeeper⟩ := List.exists_of_findSome?_eq_some hfound
      obtain ⟨hfault, htext⟩ := deeper?_eq_some.mp hdeeper
      exact .alternative hc htext (ih c hc hfault)
    | none =>
      have hnone := List.findSome?_eq_none_iff.mp hfound
      have hinhabited : Nonempty SchemaFault := ⟨.missing path ""⟩
      choose! faults hfaults using hall
      have htext : ∀ c ∈ cs, (faults c).path.text = path.text := by
        intro c hc
        by_contra htext
        have hdeeper := deeper?_eq_some.mpr ⟨hfaults c hc, htext⟩
        rw [hnone c hc] at hdeeper
        cases hdeeper
      exact .choice hrejects htext fun c hc => ih c hc (hfaults c hc)
  | fields members ih =>
    cases v with
    | object entries =>
      obtain ⟨before, m, after, rfl, -, hsettle⟩ := checkMembers_error (map_error.mp h)
      have hm : m ∈ before ++ m :: after := List.mem_append_right before List.mem_cons_self
      rcases Member.settle_error hsettle with ⟨hrequired, hnone, rfl⟩ | ⟨u, hu, hfault⟩
      · exact .missing hm hrequired hnone
      · exact .member hm hu (ih m hm hfault)
    | _ => exact shape h (Except.error.inj h).symm rfl

/-! ## Places -/

/-- The second checker is the first, or an alternative of it, at any depth. -/
inductive Offers : Checker → Checker → Prop where
  | self (c : Checker) : Offers c c
  | choice {cs : List Checker} {c d : Checker} (hc : c ∈ cs) (h : Offers c d) : Offers (.oneOf cs) d

/-- The checker at the end of a path. Each step goes into a list, an object or a member that is
declared; a choice that a step goes into is left by one of its alternatives. -/
inductive Assigns : Checker → Path → Checker → Prop where
  | here (c : Checker) : Assigns c [] c
  | item {c item d : Checker} {index : Nat} {path : Path} (hc : c.Offers (.list item))
      (h : Assigns item path d) : Assigns c (.item index :: path) d
  | entry {c item d : Checker} {key : String} {path : Path} (hc : c.Offers (.stringMap item))
      (h : Assigns item path d) : Assigns c (.member key :: path) d
  | member {c d : Checker} {members : List (Member Checker)} {m : Member Checker} {path : Path}
      (hc : c.Offers (.fields members)) (hm : m ∈ members) (h : Assigns m.checker path d) :
      Assigns c (.member m.name :: path) d

/-- The path ends in a member that must be there, with its checker, and that the object before it
does not have. -/
inductive Lacks (c : Checker) (v : Json) : Path → Checker → Prop where
  | member {place : Path} {d e : Checker} {members : List (Member Checker)}
      {entries : List (String × Json)} {name : String} (he : c.Assigns place e)
      (hmembers : e.Offers (.fields members)) (hm : ⟨name, d, .required⟩ ∈ members)
      (hv : v.LeadsTo place (.object entries)) (hnone : findEntry name entries = none) :
      Lacks c v (place ++ [.member name]) d

/-- The fault tells the truth about a value: its path leads to a value that the checker there
rejects, or to a member that is not there and must be, and it says what was expected at that place
and what was found. -/
def Locates (c : Checker) (v : Json) (fault : SchemaFault) : Prop :=
  ∃ d, c.Assigns fault.path d ∧
    ((∃ u, v.LeadsTo fault.path u ∧ d.Rejects u ∧
        fault.problem = .mismatch d.expected u.finding) ∨
      c.Lacks v fault.path d ∧ fault.problem = .mismatch d.expected .nothing)

/-- The rest of the path of a fault, below that of a value, locates it in this value. -/
def LocatesBelow (c : Checker) (path : Path) (v : Json) (fault : SchemaFault) : Prop :=
  ∃ rest, fault.path = path ++ rest ∧ c.Locates v ⟨rest, fault.problem⟩

theorem Assigns.choice {cs : List Checker} {place : Place} (hc : c ∈ cs)
    (h : c.Assigns (place :: path) d) : (oneOf cs).Assigns (place :: path) d := by
  cases h with
  | item hitem h => exact .item (.choice hc hitem) h
  | entry hentry h => exact .entry (.choice hc hentry) h
  | member hmembers hm h => exact .member (.choice hc hmembers) hm h

theorem Lacks.choice (hc : c ∈ cs) (h : c.Lacks v path d) : (oneOf cs).Lacks v path d := by
  cases h with
  | @member place _ e _ _ _ he hmembers hm hv hnone =>
    cases place with
    | nil =>
      cases he
      exact .member (.here _) (.choice hc hmembers) hm hv hnone
    | cons first rest => exact .member (he.choice hc) hmembers hm hv hnone

namespace LocatesBelow

variable {c' : Checker} {v' : Json} {place : Place}

/-- What is located below a part is located below the whole. -/
theorem within (hassigns : ∀ {path d}, c.Assigns path d → c'.Assigns (place :: path) d)
    (hleads : ∀ {path u}, v.LeadsTo path u → v'.LeadsTo (place :: path) u)
    (h : c.LocatesBelow (path ++ [place]) v fault) : c'.LocatesBelow path v' fault := by
  obtain ⟨rest, hpath, d, hd, hwrong⟩ := h
  refine ⟨place :: rest, by rw [hpath, List.append_assoc]; rfl, d, hassigns hd, ?_⟩
  rcases hwrong with ⟨u, hu, hrejects, hproblem⟩ | ⟨hlacks, hproblem⟩
  · exact .inl ⟨u, hleads hu, hrejects, hproblem⟩
  · cases hlacks with
    | member he hmembers hm hv hnone =>
      exact .inr ⟨.member (hassigns he) hmembers hm (hleads hv) hnone, hproblem⟩

/-- What an alternative locates inside a value, the choice does. -/
theorem choice (hc : c ∈ cs) (htext : fault.path.text ≠ path.text)
    (h : c.LocatesBelow path v fault) : (oneOf cs).LocatesBelow path v fault := by
  obtain ⟨rest, hpath, d, hd, hwrong⟩ := h
  cases rest with
  | nil => exact absurd (by rw [hpath, List.append_nil]) htext
  | cons place rest =>
    exact ⟨place :: rest, hpath, d, hd.choice hc, hwrong.imp_right (And.imp_left (Lacks.choice hc))⟩

/-- A value that is rejected locates a fault of its own. -/
theorem here (hrejects : c.Rejects v) :
    c.LocatesBelow path v (.mismatch path c.expected v) :=
  ⟨[], (List.append_nil path).symm, c, .here c, .inl ⟨v, .here v, hrejects, rfl⟩⟩

end LocatesBelow

/-- A check that fails at a path names a place below it. -/
theorem FailsAt.locates (h : c.FailsAt path v fault) : c.LocatesBelow path v fault := by
  induction h with
  | shape hrejects _ => exact .here hrejects
  | item _ ih => exact ih.within (.item (.self _)) (.item (by simp))
  | entry hu _ ih => exact ih.within (.entry (.self _)) (.member hu)
  | member hm hu _ ih => exact ih.within (.member (.self _) hm) (.member (mem_of_findEntry hu))
  | @missing members m path entries hm hrequired hnone =>
    have hlacks : (fields members).Lacks (.object entries) [.member m.name] m.checker := by
      obtain ⟨name, d, _⟩ := m
      subst hrequired
      exact .member (.here _) (.self _) hm (.here _) hnone
    exact ⟨[.member m.name], rfl, m.checker, .member (.self _) hm (.here _), .inr ⟨hlacks, rfl⟩⟩
  | alternative hc htext _ ih => exact ih.choice hc htext
  | choice hrejects _ _ _ => exact .here hrejects

/-- **Faults locate**: the fault of a check, or of the check of a schema, names a place that a path
leads to, and what it says of that place is true. The place is written as `Path.text` writes this
path, and what is wrong there as `Problem.text` does. -/
theorem faults_locate :
    (∀ (c : Checker) (v : Json) (fault : SchemaFault), c.coerce v = .error fault →
      c.Locates v fault) ∧
    ∀ (schema : Schema) (source : Json) (fault : SchemaFault),
      schema.check source = .error fault → (fields schema).Locates source fault := by
  have hcoerce : ∀ (c : Checker) (v : Json) (fault : SchemaFault), c.coerce v = .error fault →
      c.Locates v fault := by
    intro c v fault h
    obtain ⟨rest, hpath, hlocates⟩ := (coerceAt_failsAt h).locates
    rw [List.nil_append] at hpath
    rwa [← hpath] at hlocates
  exact ⟨hcoerce, fun schema source fault h => hcoerce _ _ _ (Schema.check_error.mp h)⟩

/-- Interfaces with the number of a network, each of which may be null. -/
def interfacesSchema : Schema :=
  let vlan := fields [⟨"vid", forcedInt, .required⟩]
  [⟨"interface_set", list (nullable (fields [⟨"vlan", vlan, .required⟩])), .required⟩]

theorem faults_locate_nested :
    let source := Json.object [("interface_set", .list [.null, .object [("vlan", .object [])]])]
    let fault := SchemaFault.missing
      [.member "interface_set", .item 1, .member "vlan", .member "vid"] "int"
    let refused := SchemaFault.mismatch [.item 0] "null or string" (.integer 3)
    (interfacesSchema.check source = .error fault ∧
      (fields interfacesSchema).Locates source fault ∧
      fault.message = "interface_set[1].vlan.vid: expected int, got nothing") ∧
    (list (nullable string)).coerce (.list [.integer 3]) = .error refused ∧
      (list (nullable string)).Locates (.list [.integer 3]) refused := by
  intro source fault refused
  have hcheck : interfacesSchema.check source = .error fault := rfl
  have hcoerce : (list (nullable string)).coerce (.list [.integer 3]) = .error refused := rfl
  exact ⟨⟨hcheck, faults_locate.2 _ _ _ hcheck, by decide +kernel⟩, hcoerce,
    faults_locate.1 _ _ _ hcoerce⟩

end Checker

end RegionClient
