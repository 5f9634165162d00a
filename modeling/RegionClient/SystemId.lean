set_option autoImplicit false

/-! # System ids

The short name of a machine or device: ASCII letters, digits, `-` and `_`, at least one of them.
-/

namespace RegionClient

/-- Whether a character may stand in a system id. -/
def isSystemIdChar (c : Char) : Bool :=
  c.isAlphanum || c == '-' || c == '_'

/-- A text that is not empty and has only the characters of a system id. -/
def IsSystemId (s : String) : Prop :=
  s.toList ≠ [] ∧ s.toList.all isSystemIdChar = true

instance (s : String) : Decidable (IsSystemId s) :=
  inferInstanceAs (Decidable (_ ∧ _))

/-- The system id of a machine or device. -/
structure SystemId where
  text : String
  valid : IsSystemId text
  deriving DecidableEq

theorem SystemId.text_ne_empty (i : SystemId) : i.text ≠ "" := by
  intro h
  exact i.valid.1 (by rw [h]; rfl)

/-- The system id with a text, if it is one. -/
def SystemId.parse? (s : String) : Option SystemId :=
  if h : IsSystemId s then some ⟨s, h⟩ else none

end RegionClient
