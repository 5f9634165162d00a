import RegionClient.Proofs.Faults

set_option autoImplicit false

/-! # Which fault of a choice is kept

If all alternatives of a choice reject a value, one that found its own outer shape and failed inside
says more than the list of what was expected. A choice is to keep the first such fault.

It tells the faults inside from those of the value itself by the texts of their places. A place
inside has another text, except where all steps to it are members with an empty name
(`Path.text_append_eq`). What is found wrong there is taken for a fault of the value itself and is
dropped: `Checker.coerceAt_oneOf_rejected` says which fault is kept in the end.
-/

namespace RegionClient

/-! ## Texts of places -/

theorem Place.after_cases (place : Place) (parent : String) :
    parent = "" ∧ place = .member "" ∧ place.after parent = "" ∨
      parent.length < (place.after parent).length := by
  cases place with
  | member name =>
    by_cases hparent : parent = ""
    · by_cases hname : name = ""
      · exact .inl ⟨hparent, by rw [hname], by rw [after, if_pos hparent, hname]⟩
      · right
        have hlength : 0 < name.length := by
          rw [Nat.pos_iff_ne_zero, Ne, String.length_eq_zero_iff]
          exact hname
        rw [after, if_pos hparent, hparent]
        exact hlength
    · right
      rw [after, if_neg hparent, String.length_append, String.length_append]
      have hpoint : ".".length = 1 := rfl
      omega
  | item index =>
    right
    rw [after, String.length_append, String.length_append, String.length_append]
    have hbracket : "[".length = 1 := rfl
    omega

namespace Path

/-- Whether all steps of a path are members with an empty name. Such a path has no text. -/
def Unnamed (path : Path) : Prop :=
  ∀ place ∈ path, place = .member ""

instance (path : Path) : Decidable path.Unnamed :=
  inferInstanceAs (Decidable (∀ place ∈ path, place = .member ""))

variable {path rest : Path}

theorem unnamed_append : (path ++ rest).Unnamed ↔ path.Unnamed ∧ rest.Unnamed :=
  List.forall_mem_append

theorem length_foldl_after (path : Path) (parent : String) :
    parent.length ≤ (path.foldl Place.after parent).length := by
  induction path generalizing parent with
  | nil => exact Nat.le_refl _
  | cons place rest ih =>
    have hrest := ih (place.after parent)
    rw [List.foldl_cons]
    rcases place.after_cases parent with ⟨hparent, -, -⟩ | hlonger
    · rw [hparent]
      exact Nat.zero_le _
    · omega

/-- Steps that leave a text as it is add nothing to a text that is empty. -/
theorem foldl_after_eq {parent : String} :
    path.foldl Place.after parent = parent ↔ path = [] ∨ parent = "" ∧ path.Unnamed := by
  induction path generalizing parent with
  | nil => simp
  | cons place rest ih =>
    rw [List.foldl_cons, Unnamed, List.forall_mem_cons]
    rcases place.after_cases parent with ⟨rfl, rfl, htext⟩ | hlonger
    · rw [htext, ih]
      constructor
      · rintro (rfl | ⟨-, hrest⟩)
        · exact .inr ⟨rfl, rfl, List.forall_mem_nil _⟩
        · exact .inr ⟨rfl, rfl, hrest⟩
      · rintro (hnil | ⟨-, -, hrest⟩)
        · cases hnil
        · exact .inr ⟨rfl, hrest⟩
    · constructor
      · intro heq
        have hrest := length_foldl_after rest (place.after parent)
        rw [heq] at hrest
        omega
      · rintro (hnil | ⟨rfl, rfl, -⟩)
        · cases hnil
        · exact absurd hlonger (Nat.lt_irrefl 0)

theorem text_eq_empty : path.text = "" ↔ path.Unnamed := by
  rw [text, foldl_after_eq]
  constructor
  · rintro (rfl | ⟨-, h⟩)
    · exact List.forall_mem_nil _
    · exact h
  · intro h
    exact .inr ⟨rfl, h⟩

/-- **A place inside reads as the outer one** exactly if no step to it has a name. -/
theorem text_append_eq : (path ++ rest).text = path.text ↔ rest = [] ∨ (path ++ rest).Unnamed := by
  have hfold : (path ++ rest).text = rest.foldl Place.after path.text := List.foldl_append
  rw [hfold, foldl_after_eq, text_eq_empty, unnamed_append]

end Path

namespace Checker

variable {c : Checker} {cs : List Checker} {path : Path} {v : Json} {fault : SchemaFault}

/-! ## Texts of faults -/

/-- A fault reads as one of the value itself if the value has not the outer shape, or if no step to
the place has a name. -/
theorem FailsAt.text_eq (h : c.FailsAt path v fault) :
    fault.path.text = path.text ↔ c.fits v = false ∨ fault.path.Unnamed := by
  have inside : ∀ {c : Checker} {path : Path} {place : Place} {u : Json} {fault : SchemaFault},
      c.FailsAt (path ++ [place]) u fault → (fault.path.text = path.text ↔ fault.path.Unnamed) := by
    intro c path place u fault h
    obtain ⟨rest, hpath, -⟩ := h.locates
    rw [List.append_assoc] at hpath
    rw [hpath, Path.text_append_eq]
    simp
  induction h with
  | shape _ hfits => simp [hfits, SchemaFault.mismatch]
  | item h _ => simp [inside h, fits, Json.list?]
  | entry _ h _ => simp [inside h, fits, Json.isObject]
  | member _ _ h _ => simp [inside h, fits, Json.isObject]
  | @missing members m path entries _ _ _ =>
    rw [fits]
    simp [SchemaFault.missing, Path.text_append_eq, Json.isObject, -Path.text_concat]
  | @alternative cs c path v fault hc htext _ ih =>
    have hfits : (oneOf cs).fits v = true := by
      rw [fits_oneOf, List.any_eq_true]
      refine ⟨c, hc, ?_⟩
      by_contra hnot
      exact htext (ih.mpr (.inl (by simpa using hnot)))
    have hnamed : ¬ fault.path.Unnamed := fun h => htext (ih.mpr (.inr h))
    simp [htext, hfits, hnamed]
  | @choice cs path v faults _ htext h ih =>
    simp only [SchemaFault.mismatch, true_iff]
    by_cases hfits : (oneOf cs).fits v = true
    · -- An alternative that fits has failed at a place that no step to has a name.
      rw [fits_oneOf, List.any_eq_true] at hfits
      obtain ⟨c, hc, hfits⟩ := hfits
      have hunnamed : (faults c).path.Unnamed :=
        ((ih c hc).mp (htext c hc)).resolve_left (by simp [hfits])
      obtain ⟨rest, hpath, -⟩ := (h c hc).locates
      rw [hpath, Path.unnamed_append] at hunnamed
      exact .inr hunnamed.1
    · exact .inl (by simpa using hfits)

/-! ## The fault that is kept -/

/-- Whether a checker finds its outer shape and fails at a place inside that has a name. -/
def failsNamed (path : Path) (v : Json) (c : Checker) : Bool :=
  match c.coerceAt path v with
  | .ok _ => false
  | .error fault => c.fits v && !decide fault.path.Unnamed

/-- The outcome of the first alternative with a property. If there is none, the list of what was
expected is held against the value. -/
def outcomeOfFirst (p : Checker → Bool) (cs : List Checker) (path : Path) (v : Json) :
    Except SchemaFault Json :=
  match cs.find? p with
  | some c => c.coerceAt path v
  | none => .error (.mismatch path (expected (.oneOf cs)) v)

theorem failsNamed_fits (h : c.failsNamed path v = true) : c.fits v = true := by
  unfold failsNamed at h
  cases hc : c.coerceAt path v with
  | ok w => simp [hc] at h
  | error fault =>
    rw [hc, Bool.and_eq_true] at h
    exact h.1

/-- What is kept of a fault is known from its place. -/
theorem deeper?_error (h : c.coerceAt path v = .error fault) :
    deeper? path v c = if c.failsNamed path v then some fault else none := by
  have htext := (coerceAt_failsAt h).text_eq
  have hnamed : c.failsNamed path v = true ↔ fault.path.text ≠ path.text := by
    rw [failsNamed, h, Ne, htext]
    simp
  rw [deeper?, h]
  by_cases heq : fault.path.text = path.text
  · have hnot : ¬ c.failsNamed path v = true := fun h => hnamed.mp h heq
    rw [if_neg hnot]
    exact if_pos heq
  · rw [if_pos (hnamed.mpr heq)]
    exact if_neg heq

theorem findSome?_deeper (h : ∀ c ∈ cs, ∃ fault, c.coerceAt path v = .error fault) :
    cs.findSome? (deeper? path v) = (cs.find? (failsNamed path v)).bind (deeper? path v) := by
  induction cs with
  | nil => rfl
  | cons c rest ih =>
    obtain ⟨⟨fault, hc⟩, hrest⟩ := List.forall_mem_cons.mp h
    have hdeeper := deeper?_error hc
    rw [List.findSome?_cons, List.find?_cons, hdeeper, ih hrest]
    cases hnamed : c.failsNamed path v with
    | true => simp [hdeeper, hnamed]
    | false => simp

/-- A choice gives the outcome of the first alternative that fails inside, at a place with a
name. -/
theorem coerceAt_oneOf_eq (hrejects : ∀ c ∈ cs, c.Rejects v) :
    (oneOf cs).coerceAt path v = outcomeOfFirst (failsNamed path v) cs path v := by
  have hfaults : ∀ c ∈ cs, ∃ fault, c.coerceAt path v = .error fault :=
    fun c hc => rejects_iff.mp (hrejects c hc)
  cases hout : (oneOf cs).coerceAt path v with
  | ok w =>
    obtain ⟨c, hc, haccepts⟩ := coerceFirst_ok (coerceAt_oneOf_ok hout)
    obtain ⟨fault, hfault⟩ := hfaults c hc
    rw [hfault] at haccepts
    cases haccepts
  | error fault =>
    obtain ⟨-, rfl⟩ := coerceAt_oneOf_error hout
    rw [findSome?_deeper hfaults, outcomeOfFirst]
    cases hfirst : cs.find? (failsNamed path v) with
    | none => rfl
    | some c =>
      obtain ⟨fault, hfault⟩ := hfaults c (List.mem_of_find?_eq_some hfirst)
      have hnamed : c.failsNamed path v = true := List.find?_some hfirst
      rw [Option.bind_some, deeper?_error hfault, if_pos hnamed]
      exact hfault.symm

/-- If the first alternative that fits fails at a place with a name, it is the first to do so. -/
theorem outcomeOfFirst_fits
    (h : ∀ c, cs.find? (·.fits v) = some c → c.failsNamed path v = true) :
    outcomeOfFirst (failsNamed path v) cs path v = outcomeOfFirst (·.fits v) cs path v := by
  have hfind : cs.find? (failsNamed path v) = cs.find? (·.fits v) := by
    cases hfirst : cs.find? (·.fits v) with
    | none =>
      rw [List.find?_eq_none] at hfirst ⊢
      exact fun c hc hnamed => hfirst c hc (failsNamed_fits hnamed)
    | some c =>
      have hnamed := h c hfirst
      obtain ⟨-, before, after, rfl, hbefore⟩ := List.find?_eq_some_iff_append.mp hfirst
      refine List.find?_eq_some_iff_append.mpr ⟨hnamed, before, after, rfl, fun b hb => ?_⟩
      have hfits : b.fits v = false := by simpa using hbefore b hb
      cases hb' : b.failsNamed path v with
      | false => rfl
      | true => exact absurd (failsNamed_fits hb') (by simp [hfits])
  rw [outcomeOfFirst, outcomeOfFirst, hfind]

/-- Below a name every place has a name. -/
theorem failsNamed_of_named (hpath : ¬ path.Unnamed) (hrejects : c.Rejects v)
    (hfits : c.fits v = true) : c.failsNamed path v = true := by
  obtain ⟨fault, hfault⟩ := rejects_iff.mp hrejects
  obtain ⟨rest, hrest, -⟩ := (coerceAt_failsAt hfault).locates
  have hnamed : ¬ fault.path.Unnamed := by
    rw [hrest, Path.unnamed_append]
    exact fun h => hpath h.1
  rw [failsNamed, hfault]
  simp [hfits, hnamed]

/-- **The fault of a choice.** If all alternatives reject a value, a choice gives the outcome of the
first alternative that finds its outer shape and fails at a place inside that has a name. This is
the first one that finds its outer shape at all, if that one fails at a place with a name, as it
does in every value that is itself below a name. -/
theorem coerceAt_oneOf_rejected (cs : List Checker) (path : Path) (v : Json)
    (hrejects : ∀ c ∈ cs, c.Rejects v) :
    (oneOf cs).coerceAt path v = outcomeOfFirst (failsNamed path v) cs path v ∧
      ((∀ c, cs.find? (·.fits v) = some c → c.failsNamed path v = true) →
        (oneOf cs).coerceAt path v = outcomeOfFirst (·.fits v) cs path v) ∧
      (¬ path.Unnamed → (oneOf cs).coerceAt path v = outcomeOfFirst (·.fits v) cs path v) := by
  have heq : (oneOf cs).coerceAt path v = outcomeOfFirst (failsNamed path v) cs path v :=
    coerceAt_oneOf_eq hrejects
  refine ⟨heq, ?_, ?_⟩
  · intro hfirst
    rw [heq, outcomeOfFirst_fits hfirst]
  · intro hpath
    rw [heq, outcomeOfFirst_fits]
    intro c hc
    have hmem : c ∈ cs := List.mem_of_find?_eq_some hc
    have hfits : c.fits v = true := by simpa using List.find?_some hc
    exact failsNamed_of_named hpath (hrejects c hmem) hfits

theorem coerceAt_oneOf_rejected_member :
    let checker := fields [⟨"id", forcedInt, .required⟩]
    let v := Json.object [("id", .string "nope")]
    (∀ c ∈ [null, checker], c.Rejects v) ∧
      (nullable checker).coerce v = .error (.mismatch [.member "id"] "int" (.string "nope")) := by
  intro checker v
  have hrejects : ∀ c ∈ [null, checker], c.Rejects v :=
    List.forall_mem_cons.mpr ⟨⟨_, rfl⟩, List.forall_mem_singleton.mpr ⟨_, rfl⟩⟩
  refine ⟨hrejects, ?_⟩
  have hfirst : ∀ c, [null, checker].find? (·.fits v) = some c → c.failsNamed [] v = true := by
    rintro _ ⟨⟩
    rfl
  exact (coerceAt_oneOf_rejected _ [] v hrejects).2.1 hfirst

/-- A member with an empty name, at the root, is a place without a name: what is wrong with it is
found by the alternative for objects, and the choice says that it expected an object. -/
theorem coerceAt_oneOf_unnamed :
    let v := Json.object [("", .integer 5)]
    (∀ c ∈ [null, stringMap string], c.Rejects v) ∧ null.fits v = false ∧
      (stringMap string).coerce v = .error (.mismatch [.member ""] "string" (.integer 5)) ∧
      (nullable (stringMap string)).coerce v = .error (.mismatch [] "null or map" v) ∧
      (nullable (stringMap string)).coerceAt [] v ≠
        outcomeOfFirst (·.fits v) [null, stringMap string] [] v := by
  intro v
  have hinner : (stringMap string).coerce v =
      .error (.mismatch [.member ""] "string" (.integer 5)) := rfl
  have houter : (nullable (stringMap string)).coerce v = .error (.mismatch [] "null or map" v) := rfl
  refine ⟨?_, rfl, hinner, houter, ?_⟩
  · exact List.forall_mem_cons.mpr ⟨⟨_, rfl⟩, List.forall_mem_singleton.mpr ⟨_, hinner⟩⟩
  · intro heq
    have hfaults := houter.symm.trans (heq.trans hinner)
    cases hfaults

end Checker

end RegionClient
