import RegionClient.Allocation
import RegionClient.Proofs.Respelling

set_option autoImplicit false

/-! # Normal forms

A value goes through a checker only once in a program, but what comes out may be written back and
checked again. `Checker.Normalizes` says of two values that the second is a normal form of the
first: it is typed strictly all the way down, has the items and the keys of the first, and of an
object only the members that are declared, with those that must be there and those that have a
value standing in.

`Checker.coerce_normal` is the result: regular checkers give normal forms, and leave these as they
are. A second pass could go wrong in three places. Another alternative could be taken, a default
could be changed by its own checker, and a default could take the place of a null that the first
pass had made; regular checkers make null from null only (`Checker.Regular.null_only`).
-/

namespace RegionClient

/-! ## Regular checkers -/

namespace Checker

/-- The checkers that the schemas are made of: the only choice is between null and one other shape,
the members of an object have names of their own, and what stands in for a member is null or is left
as it is by the checker of the member. -/
inductive Regular : Checker → Prop where
  | string : Regular .string
  | int : Regular .int
  | forcedInt : Regular .forcedInt
  | uint : Regular .uint
  | forcedUint : Regular .forcedUint
  | bool : Regular .bool
  | null : Regular .null
  | any : Regular .any
  | list {item : Checker} (h : Regular item) : Regular (.list item)
  | stringMap {item : Checker} (h : Regular item) : Regular (.stringMap item)
  | nullable {inner : Checker} (h : Regular inner) : Regular (.nullable inner)
  | fields {members : List (Member Checker)} (hnames : (members.map Member.name).Nodup)
      (h : ∀ m ∈ members, Regular m.checker)
      (hdefaults : ∀ m ∈ members, ∀ d, m.presence = .default d →
        d = .null ∨ m.checker.coerce d = .ok d) :
      Regular (.fields members)

/-- Whether a checker has no declared members inside and no choice but that of null. -/
def isFlat : Checker → Bool
  | list item | stringMap item => item.isFlat
  | oneOf [null, inner] => inner.isFlat
  | oneOf _ | fields _ => false
  | _ => true

theorem regular_of_isFlat : ∀ {c : Checker}, c.isFlat = true → c.Regular
  | string, _ => .string
  | int, _ => .int
  | forcedInt, _ => .forcedInt
  | uint, _ => .uint
  | forcedUint, _ => .forcedUint
  | bool, _ => .bool
  | null, _ => .null
  | any, _ => .any
  | list _, h => .list (regular_of_isFlat h)
  | stringMap _, h => .stringMap (regular_of_isFlat h)
  | oneOf [null, _], h => .nullable (regular_of_isFlat h)

/-- A schema with flat checkers is regular if its defaults pass their own checks. -/
theorem regular_fields {schema : Schema} (hnames : (schema.map Member.name).Nodup)
    (hflat : ∀ m ∈ schema, m.checker.isFlat = true)
    (hfit : ∀ m ∈ schema, m.defaultFits = true) : (fields schema).Regular := by
  refine .fields hnames (fun m hm => regular_of_isFlat (hflat m hm)) ?_
  intro m hm d hd
  exact .inr (Member.coerceAt_default (hfit m hm) hd)

end Checker

theorem Kind.checkers_flat (k : Kind) : ∀ m ∈ k.schema, m.checker.isFlat = true := by
  cases k <;> decide

/-! ## Normal forms -/

/-- What the normal form of an object has of a member, by what the object has: nothing for nothing,
if the member may be missing, the value that stands in for nothing and for null, which is null or
its own normal form, and the normal form of any other value. -/
inductive Presence.Normalizes (R : Json → Json → Prop) :
    Presence → Option Json → Option Json → Prop where
  | absent : Normalizes R .optional none none
  | standing {d : Json} {found : Option Json} (h : found = none ∨ found = some .null)
      (hd : d = .null ∨ R d d) : Normalizes R (.default d) found (some d)
  | present {p : Presence} {u w : Json} (hp : u = .null → ∀ d, p ≠ .default d) (h : R u w) :
      Normalizes R p (some u) (some w)

namespace Checker

mutual

/-- The second value is a normal form of the first for a checker: it is typed strictly, all the way
down, and has the items and the keys of the first, or the members that are declared. -/
def Normalizes (c : Checker) (v w : Json) : Prop :=
  match c with
  | string => ∃ s, v = .string s ∧ w = .string s
  | int | forcedInt => ∃ n, w = .integer n ∧ -2 ^ 63 ≤ n ∧ n < 2 ^ 63
  | uint | forcedUint => ∃ n, w = .integer n ∧ 0 ≤ n ∧ n < 2 ^ 64
  | bool => ∃ b, v = .bool b ∧ w = .bool b
  | null => v = .null ∧ w = .null
  | any => w = v
  | list item => ∃ vs ws, v = .list vs ∧ w = .list ws ∧ List.Forall₂ (Normalizes item) vs ws
  | stringMap item =>
    ∃ es fs, v = .object es ∧ w = .object fs ∧
      List.Forall₂ (fun e f => f.1 = e.1 ∧ Normalizes item e.2 f.2) es fs
  | oneOf alternatives => NormalizesFirst alternatives v w
  | fields members =>
    ∃ es, ∃ fs : SortedMap Json, v = .object es ∧ w = .object fs.entries ∧
      (∀ name, name ∉ members.map Member.name → fs.get? name = none) ∧
      NormalizesMembers members es fs

/-- The second value is a normal form of the first for one of several checkers. -/
def NormalizesFirst (alternatives : List Checker) (v w : Json) : Prop :=
  match alternatives with
  | [] => False
  | c :: cs => Normalizes c v w ∨ NormalizesFirst cs v w

/-- The map has what the normal form of an object has of each of the members. -/
def NormalizesMembers (members : List (Member Checker)) (es : List (String × Json))
    (fs : SortedMap Json) : Prop :=
  match members with
  | [] => True
  | ⟨name, c, presence⟩ :: rest =>
    presence.Normalizes (Normalizes c) (findEntry name es) (fs.get? name) ∧
      NormalizesMembers rest es fs

end

theorem normalizesMembers_iff {members : List (Member Checker)} {es : List (String × Json)}
    {fs : SortedMap Json} :
    NormalizesMembers members es fs ↔ ∀ m ∈ members,
      m.presence.Normalizes (Normalizes m.checker) (findEntry m.name es) (fs.get? m.name) := by
  induction members with
  | nil => simp [NormalizesMembers]
  | cons m rest ih => rw [NormalizesMembers, List.forall_mem_cons, ih]

theorem normalizes_nullable {inner : Checker} {v w : Json} :
    (nullable inner).Normalizes v w ↔ v = .null ∧ w = .null ∨ inner.Normalizes v w := by
  simp only [nullable, Normalizes, NormalizesFirst, or_false]

/-- **Null comes from null only.** -/
theorem Regular.null_only {c : Checker} (hc : c.Regular) {v : Json} (h : c.Normalizes v .null) :
    v = .null := by
  induction hc with
  | any =>
    rw [Normalizes] at h
    exact h.symm
  | null =>
    rw [Normalizes] at h
    exact h.1
  | nullable _ ih =>
    rcases normalizes_nullable.mp h with ⟨hv, -⟩ | h
    · exact hv
    · exact ih h
  | _ => simp [Normalizes] at h

end Checker

/-! ## One pass -/

namespace Member

variable {R : Json → Json → Prop} {m : Member Checker} {path : Path} {found kept : Option Json}

/-- A member that settles has a normal form, if its checker gives normal forms. -/
theorem normalizes_of_settle
    (hR : ∀ {path v w}, m.checker.coerceAt path v = .ok w → R v w)
    (hdefault : ∀ d, m.presence = .default d → d = .null ∨ R d d)
    (h : m.settle path found = .ok kept) : m.presence.Normalizes R found kept := by
  obtain ⟨name, c, p⟩ := m
  cases p with
  | required =>
    obtain ⟨u, w, rfl, hw, rfl⟩ := settle_required h
    exact .present (fun _ _ => Presence.noConfusion) (hR hw)
  | optional =>
    rcases settle_optional h with ⟨rfl, rfl⟩ | ⟨u, w, rfl, hw, rfl⟩
    · exact .absent
    · exact .present (fun _ _ => Presence.noConfusion) (hR hw)
  | default d =>
    rcases settle_default h with ⟨hfound, rfl⟩ | ⟨u, w, rfl, hne, hw, rfl⟩
    · exact .standing hfound (hdefault d rfl)
    · exact .present (fun hnull => absurd hnull hne) (hR hw)

/-- What a member settled to settles to itself. -/
theorem settle_normal (hnull : ∀ {v}, R v .null → v = .null)
    (hR : ∀ {v w}, R v w → ∀ path, m.checker.coerceAt path w = .ok w)
    (h : m.presence.Normalizes R found kept) : m.settle path kept = .ok kept := by
  obtain ⟨name, c, p⟩ := m
  cases h with
  | absent => rfl
  | @standing d _ _ hd =>
    by_cases hne : d = .null
    · subst hne
      rfl
    · rw [settle_some hne, hR (hd.resolve_left hne)]
      rfl
  | present hp h =>
    -- The value can be null only if that of the first pass was, so that no other stands in.
    rw [settle_checked fun hw => hp (hnull (hw ▸ h)), hR h]
    rfl

end Member

namespace Checker

/-- A regular checker gives normal forms. -/
theorem Regular.normalizes {c : Checker} (hc : c.Regular) {path : Path} {v w : Json}
    (h : c.coerceAt path v = .ok w) : c.Normalizes v w := by
  induction hc generalizing path v w with
  | string =>
    obtain ⟨rfl, s, rfl⟩ := coerceAt_string_ok h
    exact ⟨s, rfl, rfl⟩
  | int =>
    cases coerceAt_strict _ h with
    | int hn => exact ⟨_, rfl, hn⟩
  | forcedInt =>
    cases coerceAt_strict _ h with
    | forcedInt hn => exact ⟨_, rfl, hn⟩
  | uint =>
    cases coerceAt_strict _ h with
    | uint hn => exact ⟨_, rfl, hn⟩
  | forcedUint =>
    cases coerceAt_strict _ h with
    | forcedUint hn => exact ⟨_, rfl, hn⟩
  | bool =>
    cases v with
    | bool b => exact ⟨b, rfl, (Except.ok.inj h).symm⟩
    | _ => cases h
  | null =>
    cases v with
    | null => exact ⟨rfl, (Except.ok.inj h).symm⟩
    | _ => cases h
  | any => exact (Except.ok.inj h).symm
  | @list item _ ih =>
    cases v with
    | list vs =>
      obtain ⟨ws, hws, rfl⟩ := map_ok h
      exact ⟨vs, ws, rfl, rfl, coerceItems_forall₂ (R := item.Normalizes) ih hws⟩
    | _ => cases h
  | @stringMap item _ ih =>
    cases v with
    | object es =>
      obtain ⟨fs, hfs, rfl⟩ := map_ok h
      exact ⟨es, fs, rfl, rfl, coerceEntries_forall₂ (R := item.Normalizes) ih hfs⟩
    | _ => cases h
  | nullable _ ih =>
    rw [normalizes_nullable]
    by_cases hv : v = .null
    · subst hv
      exact .inl ⟨rfl, (Except.ok.inj h).symm⟩
    · exact .inr (ih (coerceAt_nullable hv h))
  | @fields members hnames _ hdefaults ih =>
    cases v with
    | object es =>
      obtain ⟨fs, hfs, rfl⟩ := map_ok h
      obtain ⟨hmembers, hother⟩ := get?_checkMembers hfs hnames
      refine ⟨es, fs, rfl, rfl, hother, normalizesMembers_iff.mpr fun m hm => ?_⟩
      have hdefault : ∀ d, m.presence = .default d → d = .null ∨ m.checker.Normalizes d d := by
        intro d hd
        exact (hdefaults m hm d hd).imp_right fun hcoerce => ih m hm hcoerce
      exact Member.normalizes_of_settle (ih m hm) hdefault (hmembers m hm rfl)
    | _ => cases h

/-! ## The next pass -/

/-- A regular checker leaves normal forms as they are. -/
theorem Regular.coerceAt_normal {c : Checker} (hc : c.Regular) {v w : Json}
    (h : c.Normalizes v w) (path : Path) : c.coerceAt path w = .ok w := by
  induction hc generalizing path v w with
  | string =>
    obtain ⟨s, -, rfl⟩ := h
    rfl
  | int =>
    obtain ⟨n, rfl, hn⟩ := h
    rw [coerceAt]
    exact integerOr_some (if_pos hn) ..
  | forcedInt =>
    obtain ⟨n, rfl, hn⟩ := h
    rw [coerceAt]
    exact integerOr_some (if_pos hn) ..
  | uint =>
    obtain ⟨n, rfl, hn⟩ := h
    rw [coerceAt]
    exact integerOr_some (if_pos hn) ..
  | forcedUint =>
    obtain ⟨n, rfl, hn⟩ := h
    rw [coerceAt]
    exact integerOr_some (if_pos hn) ..
  | bool =>
    obtain ⟨b, -, rfl⟩ := h
    rfl
  | null =>
    obtain ⟨-, rfl⟩ := h
    rfl
  | any => rfl
  | list _ ih =>
    obtain ⟨vs, ws, -, rfl, h⟩ := h
    have hws : ∀ w ∈ ws, ∀ path, coerceAt _ path w = .ok w :=
      forall_of_forall₂ h fun _ _ hw => ih hw
    rw [coerceAt, coerceItems_fixed hws]
    rfl
  | stringMap _ ih =>
    obtain ⟨es, fs, -, rfl, h⟩ := h
    have hfs : ∀ f ∈ fs, ∀ path, coerceAt _ path f.2 = .ok f.2 :=
      forall_of_forall₂ h fun _ _ hf => ih hf.2
    rw [coerceAt, coerceEntries_fixed hfs]
    rfl
  | nullable _ ih =>
    by_cases hw : w = .null
    · subst hw
      rfl
    · rcases normalizes_nullable.mp h with ⟨-, hnull⟩ | h
      · exact absurd hnull hw
      · exact coerceAt_nullable_of hw (ih h path)
  | @fields members hnames hregular _ ih =>
    obtain ⟨es, fs, -, rfl, hother, hmembers⟩ := h
    rw [normalizesMembers_iff] at hmembers
    have hsettle : ∀ m ∈ members,
        m.settle path (findEntry m.name fs.entries) = .ok (fs.get? m.name) := by
      intro m hm
      exact Member.settle_normal (hregular m hm).null_only (ih m hm) (hmembers m hm)
    have hvalues : checkMembers members path fs.entries .empty = .ok fs :=
      (checkMembers_eq_ok hnames).mpr ⟨hsettle, hother⟩
    rw [coerceAt, hvalues]
    rfl

/-- **Coercion reaches a normal form.** What a regular checker gives is a normal form of the value
that it took, which the same checker leaves as it is. All schemas are regular: those of the
resources, and that of match documents. -/
theorem coerce_normal :
    (∀ k : Kind, (fields k.schema).Regular) ∧ (fields Positions.schema).Regular ∧
      ∀ c : Checker, c.Regular → ∀ v w, c.coerce v = .ok w →
        c.Normalizes v w ∧ c.coerce w = .ok w := by
  refine ⟨fun k => regular_fields k.names_nodup k.checkers_flat k.defaults_fit,
    regular_fields (by decide) (by decide) (by decide), fun c hc v w h => ?_⟩
  have hnormal : c.Normalizes v w := hc.normalizes h
  exact ⟨hnormal, hc.coerceAt_normal hnormal []⟩

/-- A checker with objects in a list, an object of lists, and two values that stand in. -/
def nestedChecker : Checker :=
  let link := fields [⟨"mtu", forcedUint, .default (.integer 1500)⟩,
    ⟨"ids", Positions.labelsChecker, .optional⟩]
  fields [⟨"id", forcedInt, .required⟩, ⟨"name", nullable string, .default (.string "")⟩,
    ⟨"links", list link, .required⟩]

/-- A value with a member that is not declared, nulls, and the text of a number. -/
def nestedValue : Json :=
  .object [("links", .list [
      .object [("mtu", .null), ("zone", .bool true)],
      .object [("ids", .object [("b", .null), ("a", .list [.string " 7\n"])])]]),
    ("name", .null), ("id", .integer (-1))]

/-- The normal form of that value. -/
def nestedNormal : Json :=
  .object [("id", .integer (-1)),
    ("links", .list [
      .object [("mtu", .integer 1500)],
      .object [("ids", .object [("b", .null), ("a", .list [.integer 7])]),
        ("mtu", .integer 1500)]]),
    ("name", .string "")]

theorem coerce_normal_nested :
    nestedChecker.Regular ∧ nestedChecker.coerce nestedValue = .ok nestedNormal ∧
      nestedChecker.Normalizes nestedValue nestedNormal ∧
      nestedChecker.coerce nestedNormal = .ok nestedNormal := by
  have hids : Positions.labelsChecker.Regular := .stringMap (.nullable (.list .forcedInt))
  have hlink : (fields [⟨"mtu", forcedUint, .default (.integer 1500)⟩,
      ⟨"ids", Positions.labelsChecker, .optional⟩]).Regular := by
    refine .fields (by decide) (by simp [Regular.forcedUint, hids]) ?_
    refine List.forall_mem_cons.mpr ⟨?_, List.forall_mem_singleton.mpr fun _ h => nomatch h⟩
    rintro _ ⟨⟩
    exact .inr rfl
  have hregular : nestedChecker.Regular := by
    refine .fields (by decide) ?_ ?_
    · simp [Regular.forcedInt, Regular.string, Regular.nullable, Regular.list, hlink]
    · refine List.forall_mem_cons.mpr ⟨(fun _ h => nomatch h), List.forall_mem_cons.mpr ⟨?_, ?_⟩⟩
      · rintro _ ⟨⟩
        exact .inr rfl
      · exact List.forall_mem_singleton.mpr fun _ h => nomatch h
  have hcoerce : nestedChecker.coerce nestedValue = .ok nestedNormal := rfl
  exact ⟨hregular, hcoerce, coerce_normal.2.2 _ hregular _ _ hcoerce⟩

end Checker

end RegionClient
