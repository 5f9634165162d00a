import RegionClient.Proofs.Culprits
import RegionClient.Proofs.Interchange

set_option autoImplicit false

/-! # Versions

The version that is asked for matters in one way only: before version 2.0 there is no reader, for
any kind. From there on all versions read alike, at every depth, although each reader hands the
version on and each one chooses its entry anew. `Kind.versions_uniform` says so, and which of the
two comes first: the outer shape of a document is looked at before the version, and the version
before anything inside.
-/

namespace RegionClient

theorem Version.not_le_of_lt {v w : Version} (h : v < w) : ¬ w ≤ v := by
  rw [Version.lt_def] at h
  rw [Version.le_def]
  omega

namespace Kind

variable (k : Kind) {v v' : Version}

/-! ## Outer shapes -/

/-- A document with the wrong outer shape is refused for it, whatever the version. -/
theorem read_misshapen {source : Json} {fault : SchemaFault}
    (h : source.expectObject = .error fault) (v : Version) :
    k.reader.read v source = .error (k.reader.outerError fault) := by
  rw [Reader.read, h]
  rfl

theorem readList_misshapen {source : Json} {fault : SchemaFault}
    (h : source.expectObjects = .error fault) (v : Version) :
    k.reader.readList v source = .error (k.reader.outerError fault) := by
  rw [Reader.readList, h]
  rfl

/-! ## From the first reader on -/

variable {k}

/-- **All versions with a reader read alike.** -/
theorem interchangeable_versions (hv : v.Akin v') (k : Kind) (u : Json) :
    k.Interchangeable v v' u u := by
  -- The induction is on the kind: the version is handed to the readers of what is embedded.
  induction k using slots_induction generalizing u with
  | h k ih =>
    have hheld (name : String) (u : Json) : (k.held name).Interchange v v' u u := by
      refine .same (fun kind hkind u => ?_) u
      obtain ⟨s, hs, rfl⟩ := held_kind hkind
      exact ih s hs u
    cases u with
    | object entries =>
      exact interchangeable_of_members hv fun m _ => optionRel_same (hheld m.name) _
    | _ => exact .of_no_object k v v' rfl

/-- Kinds go by different names, so an error that names a kind names that very kind. -/
theorem typeName_injective {k k' : Kind} (h : k.typeName = k'.typeName) : k = k' := by
  cases k <;> cases k' <;> first | rfl | exact absurd h (by decide)

/-- **Versions are told apart in one way only**, for any kind: from version 2.0 on all give the same
resource or the same error. An earlier one is not supported, and the error says so of the kind that
was asked for, whatever an object or a list of objects holds; any other document is refused for its
outer shape, as at version 2.0. -/
theorem versions_uniform (k : Kind) :
    (∀ v v' source, Version.v2_0 ≤ v → Version.v2_0 ≤ v' →
      k.reader.read v' source = k.reader.read v source ∧
        k.reader.readList v' source = k.reader.readList v source) ∧
    (∀ v, v < Version.v2_0 →
      (∀ entries,
        k.reader.read v (.object entries) = .error (.unsupportedVersion k.typeName v)) ∧
      ∀ items, (∀ u ∈ items, ∃ entries, u = Json.object entries) →
        k.reader.readList v (.list items) = .error (.unsupportedVersion k.typeName v)) ∧
    (∀ v source, (∀ entries, source ≠ Json.object entries) →
      ∃ fault, k.reader.read v source = .error (k.reader.outerError fault) ∧
        k.reader.read .v2_0 source = .error (k.reader.outerError fault)) ∧
    (∀ v source, (∀ items, (∀ u ∈ items, ∃ entries, u = Json.object entries) →
        source ≠ Json.list items) →
      ∃ fault, k.reader.readList v source = .error (k.reader.outerError fault) ∧
        k.reader.readList .v2_0 source = .error (k.reader.outerError fault)) ∧
    ∀ k' : Kind, k'.typeName = k.typeName → k' = k := by
  refine ⟨fun v v' source hv hv' => ?_, fun v hlt => ?_, fun v source hshape => ?_,
    fun v source hshape => ?_, fun k' => typeName_injective⟩
  · have hakin : v.Akin v' := .inr ⟨hv, hv'⟩
    have hitem := interchangeable_versions hakin k
    exact ⟨(hitem source).read_eq,
      readList_alike hakin (.same (fun kind hkind => Option.some.inj hkind ▸ hitem) source)⟩
  · have hv := Version.not_le_of_lt hlt
    refine ⟨fun entries => k.read_before hv _, fun items hitems => ?_⟩
    have hobjects : ∀ u ∈ items, u.isObject = true := fun u hu =>
      Json.isObject_iff.mpr (hitems u hu)
    rw [k.readList_before hv, Json.expectObjects_ok hobjects]
    rfl
  · cases hfault : source.expectObject with
    | ok entries =>
      obtain ⟨entries, rfl⟩ := Json.isObject_iff.mp (Json.isObject_of_expectObject hfault)
      exact absurd rfl (hshape entries)
    | error fault => exact ⟨fault, k.read_misshapen hfault v, k.read_misshapen hfault .v2_0⟩
  · cases hfault : source.expectObjects with
    | ok items =>
      obtain ⟨rfl, hobjects⟩ := Json.list_of_expectObjects hfault
      exact absurd rfl (hshape items fun u hu => Json.isObject_iff.mp (hobjects u hu))
    | error fault =>
      exact ⟨fault, k.readList_misshapen hfault v, k.readList_misshapen hfault .v2_0⟩

/-- A fabric with a network that cannot be read, for a later and for an earlier version, alone and
in a list; and documents that are no fabrics. -/
theorem versions_uniform_fabric :
    (Version.v2_0 ≤ Version.v2_0 ∧ Version.v2_0 ≤ ⟨2, 9, 1⟩ ∧
      fabric.reader.read ⟨2, 9, 1⟩ fabricDocument = fabric.reader.read .v2_0 fabricDocument ∧
      fabric.reader.readList ⟨2, 9, 1⟩ (.list [fabricDocument]) =
        fabric.reader.readList .v2_0 (.list [fabricDocument])) ∧
    ((⟨1, 9, 0⟩ : Version) < .v2_0 ∧
      fabric.reader.read ⟨1, 9, 0⟩ fabricDocument =
        .error (.unsupportedVersion fabric.typeName ⟨1, 9, 0⟩) ∧
      fabric.reader.readList ⟨1, 9, 0⟩ (.list []) =
        .error (.unsupportedVersion fabric.typeName ⟨1, 9, 0⟩)) ∧
    (∃ fault, fabric.reader.read ⟨1, 9, 0⟩ .null = .error (fabric.reader.outerError fault) ∧
      fabric.reader.read .v2_0 .null = .error (fabric.reader.outerError fault)) ∧
    (∃ fault,
      fabric.reader.readList ⟨1, 9, 0⟩ (.list [.null]) = .error (fabric.reader.outerError fault) ∧
        fabric.reader.readList .v2_0 (.list [.null]) = .error (fabric.reader.outerError fault)) ∧
    (fabric.typeName = fabric.typeName ∧ fabric = fabric) := by
  have hitems : ∀ items, (∀ u ∈ items, ∃ entries, u = Json.object entries) →
      Json.list [.null] ≠ Json.list items := by
    rintro items hobjects ⟨⟩
    obtain ⟨entries, h⟩ := hobjects .null List.mem_cons_self
    cases h
  obtain ⟨hsame, hbefore, hobject, hlist, hname⟩ := versions_uniform fabric
  have hearly := hbefore ⟨1, 9, 0⟩ (by decide)
  refine ⟨⟨by decide, by decide, (hsame _ ⟨2, 9, 1⟩ fabricDocument (by decide) (by decide)).1,
    (hsame _ ⟨2, 9, 1⟩ (.list [fabricDocument]) (by decide) (by decide)).2⟩,
    ⟨by decide, hearly.1 _, hearly.2 [] (List.forall_mem_nil _)⟩,
    hobject ⟨1, 9, 0⟩ .null (fun _ => nofun), hlist ⟨1, 9, 0⟩ _ hitems, rfl, hname fabric rfl⟩

end Kind

end RegionClient
