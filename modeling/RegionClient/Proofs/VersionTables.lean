import RegionClient.Version.Table

set_option autoImplicit false

/-! # Look-ups in version tables

A table may list its versions in any order and one version several times. `VersionTable.Governs`
says which entry counts for a requested version: that for the greatest version up to it, with
versions compared number by number (`Version.lt_iff`), and of several the last. A look-up finds that
entry and no other (`VersionTable.best?_eq_some`).

Main statement: `VersionTable.select_governing`, which also says that a later request never gets an
entry for an earlier version.
-/

namespace RegionClient

/-! ## The order of versions -/

namespace Version

variable {a b c : Version}

theorem not_lt : ¬ a < b ↔ b ≤ a :=
  Nat.not_lt

theorem le_trans (hab : a ≤ b) (hbc : b ≤ c) : a ≤ c :=
  Nat.le_trans hab hbc

/-- Versions with the same place in the order have the same numbers. -/
theorem le_antisymm (hab : a ≤ b) (hba : b ≤ a) : a = b := by
  have hlt : ¬ a < b := not_lt.mpr hba
  have hgt : ¬ b < a := not_lt.mpr hab
  rw [lt_iff] at hlt hgt
  obtain ⟨major, minor, patch⟩ := a
  obtain ⟨major', minor', patch'⟩ := b
  simp only [UInt32.lt_iff_toNat_lt, ← UInt32.toNat_inj] at hlt hgt
  rw [mk.injEq, ← UInt32.toNat_inj, ← UInt32.toNat_inj, ← UInt32.toNat_inj]
  omega

end Version

namespace VersionTable

variable {α : Type} {requested : Version} {entries : List (Version × α)} {e : Version × α}

/-! ## The entry that counts -/

/-- **The entry that counts for a requested version**: it is for the greatest version that is not
above the requested one, and of the entries for that version it is the last. -/
structure Governs (requested : Version) (entries : List (Version × α)) (e : Version × α) :
    Prop where
  le : e.1 ≤ requested
  greatest : ∀ d ∈ entries, d.1 ≤ requested → d.1 ≤ e.1
  last : (entries.filter fun d => d.1 = e.1).getLast? = some e

namespace Governs

theorem mem (h : Governs requested entries e) : e ∈ entries :=
  (List.mem_filter.mp (List.mem_of_getLast? h.last)).1

/-- No two entries count. -/
theorem unique {e' : Version × α} (h : Governs requested entries e)
    (h' : Governs requested entries e') : e = e' := by
  have hversion : e.1 = e'.1 :=
    Version.le_antisymm (h'.greatest e h.mem h.le) (h.greatest e' h'.mem h'.le)
  have hlast := h.last
  rw [hversion, h'.last] at hlast
  exact (Option.some.inj hlast).symm

/-- An entry in front counts if it is for a greater version than all others that could. -/
theorem first {d : Version × α} (hle : d.1 ≤ requested)
    (hrest : ∀ x ∈ entries, x.1 ≤ requested → x.1 < d.1) :
    Governs requested (d :: entries) d := by
  have hother : entries.filter (fun x => x.1 = d.1) = [] := by
    refine List.filter_eq_nil_iff.mpr fun x hx hversion => ?_
    have hversion : x.1 = d.1 := of_decide_eq_true hversion
    have hlt := hrest x hx (hversion ▸ hle)
    rw [hversion] at hlt
    exact Nat.lt_irrefl _ hlt
  refine ⟨hle, List.forall_mem_cons.mpr ⟨fun _ => Nat.le_refl _, fun x hx hxle => ?_⟩, ?_⟩
  · exact Nat.le_of_lt (hrest x hx hxle)
  · rw [List.filter_cons, if_pos (decide_eq_true rfl), hother]
    rfl

/-- An entry in front does not matter if a later one counts that is not for a lower version. -/
theorem later {d : Version × α} (h : Governs requested entries e)
    (hd : d.1 ≤ requested → d.1 ≤ e.1) : Governs requested (d :: entries) e := by
  refine ⟨h.le, List.forall_mem_cons.mpr ⟨hd, h.greatest⟩, ?_⟩
  rw [List.filter_cons]
  split
  · rw [List.getLast?_cons, h.last]
    rfl
  · exact h.last

end Governs

/-! ## Look-ups -/

theorem best?_eq_none : best? requested entries = none ↔
    ∀ entry ∈ entries, ¬ entry.1 ≤ requested := by
  induction entries with
  | nil => simp [best?]
  | cons first rest ih =>
    rw [List.forall_mem_cons, best?, ← ih]
    cases best? requested rest with
    | none => by_cases hle : first.1 ≤ requested <;> simp [hle]
    | some later => by_cases hle : first.1 ≤ requested ∧ later.1 < first.1 <;> simp [hle]

/-- What is found counts. -/
theorem governs_of_best? (h : best? requested entries = some e) : Governs requested entries e := by
  induction entries generalizing e with
  | nil => cases h
  | cons d rest ih =>
    rw [best?] at h
    cases hrest : best? requested rest with
    | none =>
      rw [hrest] at h
      obtain ⟨hle, hd⟩ := Option.ite_none_right_eq_some.mp h
      obtain rfl := Option.some.inj hd
      exact .first hle fun x hx hxle => absurd hxle (best?_eq_none.mp hrest x hx)
    | some found =>
      rw [hrest] at h
      have hfound := ih hrest
      dsimp only at h
      split at h
      · rename_i hd
        obtain rfl := Option.some.inj h
        exact .first hd.1 fun x hx hxle => Nat.lt_of_le_of_lt (hfound.greatest x hx hxle) hd.2
      · rename_i hd
        obtain rfl := Option.some.inj h
        exact hfound.later fun hle => Version.not_lt.mp fun hlt => hd ⟨hle, hlt⟩

/-- A look-up finds the entry that counts. -/
theorem best?_eq_some : best? requested entries = some e ↔ Governs requested entries e := by
  refine ⟨governs_of_best?, fun h => ?_⟩
  cases hbest : best? requested entries with
  | none => exact absurd h.le (best?_eq_none.mp hbest e h.mem)
  | some found => exact congrArg some ((governs_of_best? hbest).unique h)

variable {table : VersionTable α}

/-- A look-up fails only if all entries are for later versions. -/
theorem select_error {error : Error} : table.select requested = .error error ↔
    (∀ entry ∈ table.entries, ¬ entry.1 ≤ requested) ∧
      error = .unsupportedVersion table.typeName requested := by
  rw [← best?_eq_none, select]
  cases best? requested table.entries with
  | none => simp [eq_comm]
  | some entry => simp

theorem select_ok : table.select requested = .ok e ↔ Governs requested table.entries e := by
  rw [← best?_eq_some, select]
  cases best? requested table.entries <;> simp

/-- Where an entry counts, one for the same or a greater version counts for a later request. -/
theorem exists_select {later : Version} (h : Governs requested table.entries e)
    (hlater : requested ≤ later) : ∃ e', table.select later = .ok e' ∧ e.1 ≤ e'.1 := by
  have hle : e.1 ≤ later := Version.le_trans h.le hlater
  cases hselect : table.select later with
  | error error => exact absurd hle ((select_error.mp hselect).1 e h.mem)
  | ok e' => exact ⟨e', rfl, (select_ok.mp hselect).greatest e h.mem hle⟩

/-- **A look-up** fails if and only if all entries are for later versions, with an error that names
the table and the request; otherwise it gives the entry that counts, wherever that stands; and a
later request succeeds as well, with the same or a greater version. -/
theorem select_governing (table : VersionTable α) (requested : Version) :
    (∀ error, table.select requested = .error error ↔
      (∀ d ∈ table.entries, requested < d.1) ∧
        error = .unsupportedVersion table.typeName requested) ∧
    (∀ e, table.select requested = .ok e ↔ Governs requested table.entries e) ∧
    ∀ later e, requested ≤ later → table.select requested = .ok e →
      ∃ e', table.select later = .ok e' ∧ e.1 ≤ e'.1 := by
  refine ⟨fun error => ?_, fun e => select_ok, fun later e hlater h => ?_⟩
  · exact select_error.trans (and_congr_left' (forall₂_congr fun _ _ => Nat.not_le))
  · exact exists_select (select_ok.mp h) hlater

/-- A table out of order, with two entries for one version. -/
def shuffled : VersionTable String :=
  ⟨"thing", [(⟨2, 3, 0⟩, "early"), (⟨2, 10, 0⟩, "last"), (⟨2, 0, 5⟩, "first"), (⟨2, 3, 0⟩, "late")]⟩

theorem select_governing_shuffled :
    Governs ⟨2, 9, 1⟩ shuffled.entries (⟨2, 3, 0⟩, "late") ∧
    ((⟨2, 9, 1⟩ : Version) ≤ ⟨2, 10, 0⟩ ∧
      ∃ e', shuffled.select ⟨2, 10, 0⟩ = .ok e' ∧ (⟨2, 3, 0⟩ : Version) ≤ e'.1) ∧
    shuffled.select ⟨2, 0, 4⟩ = .error (.unsupportedVersion "thing" ⟨2, 0, 4⟩) := by
  obtain ⟨-, hfound, hlater⟩ := select_governing shuffled ⟨2, 9, 1⟩
  obtain ⟨hfails, -, -⟩ := select_governing shuffled ⟨2, 0, 4⟩
  have hselect : shuffled.select ⟨2, 9, 1⟩ = .ok (⟨2, 3, 0⟩, "late") := rfl
  have hle : (⟨2, 9, 1⟩ : Version) ≤ ⟨2, 10, 0⟩ := by decide
  have hgreater := hlater ⟨2, 10, 0⟩ (⟨2, 3, 0⟩, "late") hle hselect
  exact ⟨(hfound _).mp hselect, ⟨hle, hgreater⟩, (hfails _).mpr ⟨by decide, rfl⟩⟩

end VersionTable

end RegionClient
