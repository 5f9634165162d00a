import RegionClient.Text.Blank
import RegionClient.Text.Numeral
import RegionClient.Text.Pieces

set_option autoImplicit false

/-! # Versions

A version has a major, a minor and a patch number. It is read from one to three numbers between
points, with zero for what is left out, and always written in full. Versions are ordered by their
numbers from left to right (`Version.lt_iff`).
-/

namespace RegionClient

/-- A version of the interface of a region controller. -/
structure Version where
  major : UInt32
  minor : UInt32
  patch : UInt32
  deriving DecidableEq, Inhabited

namespace Version

/-- The oldest version that any reader knows. -/
def v2_0 : Version :=
  ⟨2, 0, 0⟩

/-- The place of a version in the order of all versions. -/
def rank (v : Version) : Nat :=
  (v.major.toNat * 2 ^ 32 + v.minor.toNat) * 2 ^ 32 + v.patch.toNat

instance : LE Version :=
  ⟨fun a b => a.rank ≤ b.rank⟩

instance : LT Version :=
  ⟨fun a b => a.rank < b.rank⟩

instance (a b : Version) : Decidable (a ≤ b) :=
  inferInstanceAs (Decidable (a.rank ≤ b.rank))

instance (a b : Version) : Decidable (a < b) :=
  inferInstanceAs (Decidable (a.rank < b.rank))

theorem le_def {a b : Version} : a ≤ b ↔ a.rank ≤ b.rank :=
  Iff.rfl

theorem lt_def {a b : Version} : a < b ↔ a.rank < b.rank :=
  Iff.rfl

/-- **The order of versions** compares major, then minor, then patch numbers. -/
theorem lt_iff {a b : Version} :
    a < b ↔ a.major < b.major ∨ a.major = b.major ∧
      (a.minor < b.minor ∨ a.minor = b.minor ∧ a.patch < b.patch) := by
  have ha := a.minor.toNat_lt
  have hb := b.minor.toNat_lt
  have ha' := a.patch.toNat_lt
  have hb' := b.patch.toNat_lt
  simp only [lt_def, rank, UInt32.lt_iff_toNat_lt, ← UInt32.toNat_inj]
  omega

/-- The number of a component: an optional plus and digits. -/
def component? (s : List Char) : Option UInt32 :=
  (Numeral.unsigned? 32 s).map UInt32.ofNat

/-- The version of up to three components. -/
def ofComponents? : List UInt32 → Option Version
  | [major] => some ⟨major, 0, 0⟩
  | [major, minor] => some ⟨major, minor, 0⟩
  | [major, minor, patch] => some ⟨major, minor, patch⟩
  | _ => none

/-- Reads a version, with blanks around it. -/
def parse? (input : String) : Option Version :=
  ((Text.pieces (· == '.') (Text.trimmed input.toList)).mapM component?).bind ofComponents?

/-- The written form of a version. -/
def text (v : Version) : String :=
  Numeral.ofNat v.major.toNat ++ "." ++ Numeral.ofNat v.minor.toNat ++ "." ++
    Numeral.ofNat v.patch.toNat

end Version

end RegionClient
