import RegionClient.Text.Numeral
import RegionClient.Text.Pieces

set_option autoImplicit false

/-! # Request parameters

Keys with values, in the order in which they are sent. A list is sent by one pair for each item, and
an empty value means that nothing is given, so most blocks below leave it out. A list of parameters
is the concatenation of such blocks.
-/

namespace RegionClient

/-- Parameters of a request, in order; a key may occur several times. -/
abbrev Parameters : Type :=
  List (String × String)

namespace Parameters

/-- A value that is always sent. -/
def always (key value : String) : Parameters :=
  [(key, value)]

/-- A value that is sent if it is there, be it empty. -/
def optional (key : String) : Option String → Parameters
  | none => []
  | some value => [(key, value)]

/-- A value that is sent unless it is empty. -/
def nonempty (key value : String) : Parameters :=
  if value = "" then [] else [(key, value)]

/-- One pair for each value that is not empty. -/
def each (key : String) (values : List String) : Parameters :=
  values.flatMap (nonempty key)

/-- A truth value that is sent if it is true. -/
def flag (key : String) (value : Bool) : Parameters :=
  if value then [(key, "true")] else []

/-- The query that names an operation. -/
def operation (name : String) : Parameters :=
  always "op" name

theorem mem_nonempty {key value : String} {p : String × String} :
    p ∈ nonempty key value ↔ value ≠ "" ∧ p = (key, value) := by
  unfold nonempty
  split <;> simp_all

theorem mem_each {key : String} {values : List String} {p : String × String} :
    p ∈ each key values ↔ p.1 = key ∧ p.2 ∈ values ∧ p.2 ≠ "" := by
  obtain ⟨k, v⟩ := p
  simp only [each, List.mem_flatMap, mem_nonempty, Prod.mk.injEq]
  constructor
  · rintro ⟨value, hmem, hne, rfl, rfl⟩
    exact ⟨rfl, hmem, hne⟩
  · rintro ⟨rfl, hmem, hne⟩
    exact ⟨v, hmem, hne, rfl, rfl⟩

end Parameters

end RegionClient
