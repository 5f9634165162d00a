import RegionClient.Order.Constraints

set_option autoImplicit false

/-! # Well-formed constraints

The constraints of an allocation are checked list by list, and each list from front to back, with
the labels seen so far at hand. They pass if they are well formed, which is said of each constraint
on its own and of all labels together (`Constraints.WellFormed`); and if they do not pass, the
check reports the first offence on its way (`Constraints.RefusedFor`).

Both lists with labels are scanned alike, so `scan_eq_ok` and `scan_eq_error` are about any check of
an item that may look at the items before it. Main statement: `Constraints.validate_exact`.
-/

namespace RegionClient

/-! ## Scanning a list -/

section Scan

variable {α ε : Type}

/-- Checks items one after the other, each with the items before it at hand. -/
def scan (check : List α → α → Except ε Unit) (before : List α) : List α → Except ε Unit
  | [] => .ok ()
  | a :: rest => (check before a).bind fun _ => scan check (before ++ [a]) rest

/-- An item offends after others, and none before it does. -/
def FirstOffence (offends : List α → α → ε → Prop) (items : List α) (e : ε) : Prop :=
  ∃ earlier a later, items = earlier ++ a :: later ∧ offends earlier a e ∧
    ∀ first b rest, earlier = first ++ b :: rest → ∀ e', ¬ offends first b e'

variable {check : List α → α → Except ε Unit} {before items : List α}

/-- A scan passes if each item is in order on its own and with each item before it. -/
theorem scan_eq_ok {proper : α → Prop} {agree : α → α → Prop}
    (hcheck : ∀ before a, check before a = .ok () ↔ proper a ∧ ∀ b ∈ before, agree b a) :
    scan check before items = .ok () ↔
      (∀ a ∈ items, proper a ∧ ∀ b ∈ before, agree b a) ∧ items.Pairwise agree := by
  induction items generalizing before with
  | nil => simp [scan]
  | cons a rest ih =>
    cases ha : check before a with
    | error e =>
      have hoffends : ¬ (proper a ∧ ∀ b ∈ before, agree b a) := by
        rw [← hcheck, ha]
        exact nofun
      simp [scan, ha, Except.bind, hoffends]
    | ok u =>
      have hproper := (hcheck before a).mp ha
      have hscan : scan check before (a :: rest) = scan check (before ++ [a]) rest := by
        simp [scan, ha, Except.bind]
      rw [hscan, ih, List.forall_mem_cons, List.pairwise_cons]
      simp only [List.forall_mem_append, List.forall_mem_singleton]
      constructor
      · rintro ⟨hrest, hpairs⟩
        refine ⟨⟨hproper, fun b hb => ⟨(hrest b hb).1, (hrest b hb).2.1⟩⟩, ?_, hpairs⟩
        exact fun b hb => (hrest b hb).2.2
      · rintro ⟨⟨-, hrest⟩, hfirst, hpairs⟩
        exact ⟨fun b hb => ⟨(hrest b hb).1, (hrest b hb).2, hfirst b hb⟩, hpairs⟩

/-- The first of some items offends, or it does not and the first offence is among the others. -/
theorem firstOffence_cons {offends : List α → α → ε → Prop} {a : α} {rest : List α} {e : ε} :
    FirstOffence offends (a :: rest) e ↔ offends [] a e ∨
      (∀ e', ¬ offends [] a e') ∧ FirstOffence (fun earlier => offends (a :: earlier)) rest e := by
  constructor
  · rintro ⟨earlier, b, later, hitems, hb, hnone⟩
    cases earlier with
    | nil =>
      obtain ⟨rfl, rfl⟩ := List.cons.inj hitems
      exact .inl hb
    | cons a' earlier =>
      obtain ⟨rfl, hrest⟩ := List.cons.inj hitems
      refine .inr ⟨hnone [] a earlier rfl, earlier, b, later, hrest, hb, ?_⟩
      intro first b' rest' h
      exact hnone (a :: first) b' rest' (by rw [h, List.cons_append])
  · rintro (ha | ⟨ha, earlier, b, later, rfl, hb, hnone⟩)
    · refine ⟨[], a, rest, rfl, ha, ?_⟩
      intro first b rest' h
      cases first <;> cases h
    · refine ⟨a :: earlier, b, later, rfl, hb, ?_⟩
      intro first b' rest' h
      cases first with
      | nil =>
        obtain ⟨rfl, -⟩ := List.cons.inj h
        exact ha
      | cons a' first =>
        obtain ⟨rfl, hrest⟩ := List.cons.inj h
        exact hnone first b' rest' hrest

/-- **A scan fails with the first offence.** -/
theorem scan_eq_error {offends : List α → α → ε → Prop}
    (hcheck : ∀ before a e, check before a = .error e ↔ offends before a e) {e : ε} :
    scan check before items = .error e ↔
      FirstOffence (fun earlier => offends (before ++ earlier)) items e := by
  induction items generalizing before with
  | nil => simp [scan, FirstOffence]
  | cons a rest ih =>
    have hrest : FirstOffence (fun earlier => offends (before ++ a :: earlier)) rest e ↔
        scan check (before ++ [a]) rest = .error e := by
      rw [ih]
      simp only [List.append_assoc, List.singleton_append]
    rw [firstOffence_cons, hrest]
    simp only [List.append_nil, ← hcheck, scan]
    cases check before a <;> simp [Except.bind]

end Scan

/-! ## Interfaces -/

namespace InterfaceConstraint

/-- **What is wrong with a constraint that comes after others**: it has no label, or no space, or
the label of one of them. -/
inductive Offends (earlier : List InterfaceConstraint) (c : InterfaceConstraint) :
    Rejection → Prop where
  | unlabelled (h : c.label = "") : Offends earlier c .interfaceLabelMissing
  | spaceless (hlabel : c.label ≠ "") (h : c.space = "") :
      Offends earlier c (.interfaceSpaceMissing c.label)
  | repeated (hlabel : c.label ≠ "") (hspace : c.space ≠ "") (h : c.label ∈ earlier.map label) :
      Offends earlier c (.interfaceLabelRepeated c.label)

/-- The check of a constraint that comes after others. -/
def validateAfter (earlier : List InterfaceConstraint) (c : InterfaceConstraint) :
    Except Rejection Unit :=
  c.validate.bind fun _ =>
    if c.label ∈ earlier.map label then .error (.interfaceLabelRepeated c.label) else .ok ()

variable {earlier cs : List InterfaceConstraint} {c : InterfaceConstraint} {seen : List String}

theorem validateAll_eq_scan (h : ∀ l, l ∈ seen ↔ l ∈ earlier.map label) :
    validateAll seen cs = scan validateAfter earlier cs := by
  induction cs generalizing seen earlier with
  | nil => rfl
  | cons c rest ih =>
    have hseen (l : String) : l ∈ c.label :: seen ↔ l ∈ (earlier ++ [c]).map label := by
      simp [h, or_comm]
    rw [validateAll, scan, validateAfter, ih hseen]
    cases c.validate with
    | error r => rfl
    | ok u =>
      simp only [bind, Except.bind, h]
      split
      · rfl
      · rfl

theorem validateAll_nil : validateAll [] cs = scan validateAfter [] cs :=
  validateAll_eq_scan fun _ => Iff.rfl

theorem validateAfter_eq_error (earlier : List InterfaceConstraint) (c : InterfaceConstraint)
    (r : Rejection) : validateAfter earlier c = .error r ↔ Offends earlier c r := by
  constructor
  · intro h
    unfold validateAfter validate at h
    by_cases hlabel : c.label = ""
    · rw [if_pos hlabel] at h
      obtain rfl := Except.error.inj h
      exact .unlabelled hlabel
    · by_cases hspace : c.space = ""
      · rw [if_neg hlabel, if_pos hspace] at h
        obtain rfl := Except.error.inj h
        exact .spaceless hlabel hspace
      · by_cases hrepeated : c.label ∈ earlier.map label
        · rw [if_neg hlabel, if_neg hspace, if_pos hrepeated] at h
          obtain rfl := Except.error.inj h
          exact .repeated hlabel hspace hrepeated
        · rw [if_neg hlabel, if_neg hspace, if_neg hrepeated] at h
          cases h
  · rintro (hlabel | ⟨hlabel, hspace⟩ | ⟨hlabel, hspace, hrepeated⟩)
    · simp [validateAfter, validate, hlabel, Except.bind]
    · simp [validateAfter, validate, hlabel, hspace, Except.bind]
    · rw [validateAfter, validate, if_neg hlabel, if_neg hspace, if_pos hrepeated]
      rfl

theorem validateAfter_eq_ok (earlier : List InterfaceConstraint) (c : InterfaceConstraint) :
    validateAfter earlier c = .ok () ↔
      (c.label ≠ "" ∧ c.space ≠ "") ∧ ∀ b ∈ earlier, b.label ≠ c.label := by
  by_cases hlabel : c.label = ""
  · simp [validateAfter, validate, hlabel, Except.bind]
  · by_cases hspace : c.space = ""
    · simp [validateAfter, validate, hlabel, hspace, Except.bind]
    · simp [validateAfter, validate, hlabel, hspace, Except.bind]

/-- A list passes if each constraint has a label and a space and no two labels are alike. -/
theorem validateAll_eq_ok : validateAll [] cs = .ok () ↔
    (∀ c ∈ cs, c.label ≠ "" ∧ c.space ≠ "") ∧ (cs.map label).Nodup := by
  rw [validateAll_nil, scan_eq_ok validateAfter_eq_ok, List.Nodup,
    List.pairwise_map]
  simp

theorem validateAll_eq_error {r : Rejection} :
    validateAll [] cs = .error r ↔ FirstOffence Offends cs r := by
  rw [validateAll_nil, scan_eq_error validateAfter_eq_error]
  rfl

end InterfaceConstraint

/-! ## Storage -/

namespace StorageConstraint

/-- **What is wrong with a constraint that comes after others**: it has no size, or an empty tag, or
a label that is the label of one of them. -/
inductive Offends (earlier : List StorageConstraint) (c : StorageConstraint) :
    Rejection → Prop where
  | sizeless (h : c.size = 0) : Offends earlier c (.storageSizeZero c.label)
  | emptyTag (hsize : c.size ≠ 0) (h : "" ∈ c.tags) : Offends earlier c (.storageTagEmpty c.label)
  | repeated (hsize : c.size ≠ 0) (htags : "" ∉ c.tags) (hlabel : c.label ≠ "")
      (h : c.label ∈ earlier.map label) : Offends earlier c (.storageLabelRepeated c.label)

/-- The check of a constraint that comes after others. -/
def validateAfter (earlier : List StorageConstraint) (c : StorageConstraint) :
    Except Rejection Unit :=
  c.validate.bind fun _ =>
    if c.label ≠ "" ∧ c.label ∈ earlier.map label then .error (.storageLabelRepeated c.label)
    else .ok ()

variable {earlier cs : List StorageConstraint} {c : StorageConstraint} {seen : List String}

theorem validateAll_eq_scan (h : ∀ l, l ∈ seen ↔ l ∈ earlier.map label) :
    validateAll seen cs = scan validateAfter earlier cs := by
  induction cs generalizing seen earlier with
  | nil => rfl
  | cons c rest ih =>
    have hseen (l : String) : l ∈ c.label :: seen ↔ l ∈ (earlier ++ [c]).map label := by
      simp [h, or_comm]
    rw [validateAll, scan, validateAfter, ih hseen]
    cases c.validate with
    | error r => rfl
    | ok u =>
      simp only [bind, Except.bind, h]
      split
      · rfl
      · rfl

theorem validateAll_nil : validateAll [] cs = scan validateAfter [] cs :=
  validateAll_eq_scan fun _ => Iff.rfl

theorem validateAfter_eq_error (earlier : List StorageConstraint) (c : StorageConstraint)
    (r : Rejection) : validateAfter earlier c = .error r ↔ Offends earlier c r := by
  constructor
  · intro h
    unfold validateAfter validate at h
    by_cases hsize : c.size = 0
    · rw [if_pos hsize] at h
      obtain rfl := Except.error.inj h
      exact .sizeless hsize
    · by_cases htags : "" ∈ c.tags
      · rw [if_neg hsize, if_pos htags] at h
        obtain rfl := Except.error.inj h
        exact .emptyTag hsize htags
      · by_cases hrepeated : c.label ≠ "" ∧ c.label ∈ earlier.map label
        · rw [if_neg hsize, if_neg htags, Except.bind, if_pos hrepeated] at h
          obtain rfl := Except.error.inj h
          exact .repeated hsize htags hrepeated.1 hrepeated.2
        · rw [if_neg hsize, if_neg htags, Except.bind, if_neg hrepeated] at h
          cases h
  · rintro (hsize | ⟨hsize, htags⟩ | ⟨hsize, htags, hlabel, hrepeated⟩)
    · simp [validateAfter, validate, hsize, Except.bind]
    · simp [validateAfter, validate, hsize, htags, Except.bind]
    · rw [validateAfter, validate, if_neg hsize, if_neg htags, if_pos ⟨hlabel, hrepeated⟩]
      rfl

theorem validate_eq_ok : c.validate = .ok () ↔ 0 < c.size ∧ ∀ t ∈ c.tags, t ≠ "" := by
  have htags : "" ∉ c.tags ↔ ∀ t ∈ c.tags, t ≠ "" :=
    ⟨fun h t ht heq => h (heq ▸ ht), fun h ht => h "" ht rfl⟩
  rw [UInt64.pos_iff_ne_zero, ← htags, validate]
  by_cases hsize : c.size = 0
  · simp [hsize]
  · simp [hsize]

theorem validateAfter_eq_ok (earlier : List StorageConstraint) (c : StorageConstraint) :
    validateAfter earlier c = .ok () ↔ (0 < c.size ∧ ∀ t ∈ c.tags, t ≠ "") ∧
      ∀ b ∈ earlier, c.label ≠ "" → b.label ≠ c.label := by
  rw [← validate_eq_ok, validateAfter]
  cases c.validate with
  | error r => simp [Except.bind]
  | ok u =>
    by_cases hlabel : c.label = ""
    · simp [hlabel, Except.bind]
    · simp [hlabel, Except.bind]

/-- A list passes if each constraint has a size and tags that are not empty and no two labels are
alike, except that several may be empty. -/
theorem validateAll_eq_ok : validateAll [] cs = .ok () ↔
    (∀ c ∈ cs, 0 < c.size ∧ ∀ t ∈ c.tags, t ≠ "") ∧ ((cs.map label).filter (· ≠ "")).Nodup := by
  have hpairs : ((cs.map label).filter (· ≠ "")).Nodup ↔
      cs.Pairwise fun b c => c.label ≠ "" → b.label ≠ c.label := by
    rw [List.Nodup, List.pairwise_filter, List.pairwise_map]
    refine List.Pairwise.iff fun b c => ?_
    simp only [decide_eq_true_eq]
    constructor
    · intro h hc hbc
      exact h (hbc ▸ hc) hc hbc
    · intro h _ hc
      exact h hc
  rw [validateAll_nil, scan_eq_ok validateAfter_eq_ok, hpairs]
  simp

theorem validateAll_eq_error {r : Rejection} :
    validateAll [] cs = .error r ↔ FirstOffence Offends cs r := by
  rw [validateAll_nil, scan_eq_error validateAfter_eq_error]
  rfl

end StorageConstraint

/-! ## All constraints -/

namespace Constraints

/-- **What is wanted of constraints**, of each on its own and of all together. -/
structure WellFormed (c : Constraints) : Prop where
  interfaces : ∀ i ∈ c.interfaces, i.label ≠ "" ∧ i.space ≠ ""
  interfaceLabels : (c.interfaces.map InterfaceConstraint.label).Nodup
  excludedSpaces : ∀ s ∈ c.excludedSpaces, s ≠ ""
  storage : ∀ s ∈ c.storage, 0 < s.size ∧ ∀ t ∈ s.tags, t ≠ ""
  /-- Several constraints may have no label. -/
  storageLabels : ((c.storage.map StorageConstraint.label).filter (· ≠ "")).Nodup

/-- **What constraints are refused for**: the first offence, from interfaces over excluded spaces to
storage. -/
inductive RefusedFor (c : Constraints) : Rejection → Prop where
  | interface {r : Rejection} (h : FirstOffence InterfaceConstraint.Offends c.interfaces r) :
      RefusedFor c r
  | excludedSpace (hinterfaces : ∀ r, ¬ FirstOffence InterfaceConstraint.Offends c.interfaces r)
      (h : "" ∈ c.excludedSpaces) : RefusedFor c .excludedSpaceEmpty
  | storage {r : Rejection}
      (hinterfaces : ∀ r, ¬ FirstOffence InterfaceConstraint.Offends c.interfaces r)
      (hspaces : "" ∉ c.excludedSpaces)
      (h : FirstOffence StorageConstraint.Offends c.storage r) : RefusedFor c r

/-- The check goes through three lists one after the other. -/
theorem validate_eq (c : Constraints) : c.validate =
    (InterfaceConstraint.validateAll [] c.interfaces).bind fun _ =>
      if "" ∈ c.excludedSpaces then .error .excludedSpaceEmpty
      else StorageConstraint.validateAll [] c.storage := by
  rw [validate]
  cases InterfaceConstraint.validateAll [] c.interfaces with
  | error r => rfl
  | ok u =>
    by_cases hspaces : "" ∈ c.excludedSpaces
    · simp [bind, Except.bind, hspaces, throw, throwThe, MonadExceptOf.throw]
    · simp [bind, Except.bind, hspaces]

theorem wellFormed_iff (c : Constraints) : c.WellFormed ↔
    InterfaceConstraint.validateAll [] c.interfaces = .ok () ∧ "" ∉ c.excludedSpaces ∧
      StorageConstraint.validateAll [] c.storage = .ok () := by
  have hspaces : "" ∉ c.excludedSpaces ↔ ∀ s ∈ c.excludedSpaces, s ≠ "" :=
    ⟨fun h s hs heq => h (heq ▸ hs), fun h hs => h "" hs rfl⟩
  rw [InterfaceConstraint.validateAll_eq_ok, StorageConstraint.validateAll_eq_ok, hspaces]
  constructor
  · intro h
    exact ⟨⟨h.interfaces, h.interfaceLabels⟩, h.excludedSpaces, h.storage, h.storageLabels⟩
  · rintro ⟨⟨hinterfaces, hlabels⟩, hspaces, hstorage, hstorageLabels⟩
    exact ⟨hinterfaces, hlabels, hspaces, hstorage, hstorageLabels⟩

/-- **The check of constraints is exact**: it accepts those that are well formed, and refuses all
others with their first offence. -/
theorem validate_exact (c : Constraints) :
    (c.validate = .ok () ↔ c.WellFormed) ∧ ∀ r, c.validate = .error r ↔ c.RefusedFor r := by
  have hinterfaces (r : Rejection) : InterfaceConstraint.validateAll [] c.interfaces = .error r ↔
      FirstOffence InterfaceConstraint.Offends c.interfaces r :=
    InterfaceConstraint.validateAll_eq_error
  have hstorage (r : Rejection) : StorageConstraint.validateAll [] c.storage = .error r ↔
      FirstOffence StorageConstraint.Offends c.storage r :=
    StorageConstraint.validateAll_eq_error
  rw [wellFormed_iff, validate_eq]
  cases hi : InterfaceConstraint.validateAll [] c.interfaces with
  | error r =>
    rw [hi] at hinterfaces
    have hfirst := (hinterfaces r).mp rfl
    refine ⟨by simp [Except.bind], fun r' => ⟨?_, ?_⟩⟩
    · rintro ⟨⟩
      exact .interface hfirst
    · rintro (h | ⟨hnone, -⟩ | ⟨hnone, -⟩)
      · exact (hinterfaces r').mpr h
      · exact absurd hfirst (hnone r)
      · exact absurd hfirst (hnone r)
  | ok u =>
    have hnone (r : Rejection) : ¬ FirstOffence InterfaceConstraint.Offends c.interfaces r := by
      rw [← hinterfaces, hi]
      exact nofun
    simp only [Except.bind]
    by_cases hspaces : "" ∈ c.excludedSpaces
    · rw [if_pos hspaces]
      refine ⟨by simp [hspaces], fun r' => ⟨?_, ?_⟩⟩
      · rintro ⟨⟩
        exact .excludedSpace hnone hspaces
      · rintro (h | - | ⟨-, hno, -⟩)
        · exact absurd h (hnone r')
        · rfl
        · exact absurd hspaces hno
    · rw [if_neg hspaces]
      refine ⟨by simp [hspaces], fun r' => ⟨?_, ?_⟩⟩
      · intro h
        exact .storage hnone hspaces ((hstorage r').mp h)
      · rintro (h | ⟨-, h⟩ | ⟨-, -, h⟩)
        · exact absurd h (hnone r')
        · exact absurd h hspaces
        · exact (hstorage r').mpr h

end Constraints

end RegionClient
