import RegionClient.Proofs.Readers

set_option autoImplicit false

/-! # Outer shapes

A reader looks at the outer shape of a document where the document lies: `Json.expectObject` and
`Json.expectObjects` say whether it is an object, or a list of objects, and hand out what it holds.
Two checkers describe the same shapes, `Checker.object` and the list of it, and build a copy of what
they accept, down to the last value.

The copy is the document, and a fault is the same fault at the same place: `Checker.coerce_object`
and `Checker.coerce_objects`. So nothing is lost where no copy is made, and `Reader.read_uncopied`
says of both ways to read that the outcomes are the same.
-/

namespace RegionClient

namespace Checker

/-- The copy of an object is that object; anything else is refused as it is where it lies. -/
theorem coerce_object (value : Json) :
    coerce .object value = value.expectObject.map fun _ => value := by
  rw [coerce, coerceAt_object]
  cases value <;> rfl

/-- The copy of a list of objects is that list; the first other element is blamed in both ways. -/
theorem coerce_objects (value : Json) :
    coerce (.list .object) value = value.expectObjects.map fun _ => value := by
  cases value with
  | list items =>
    rw [coerce, coerceAt_objects, Json.expectObjects_list]
    cases Json.firstOther 0 items <;> rfl
  | _ => rfl

end Checker

namespace Reader

variable {α : Type}

/-- Reads an object from the copy that a checker makes of it. -/
def readCopy (r : Reader α) (version : Version) (source : Json) : Except Error α := do
  let copy ← (Checker.object.coerce source).mapError r.outerError
  let entry ← r.select version
  entry version copy

/-- Reads a list of objects from the copy that a checker makes of it. -/
def readListCopy (r : Reader α) (version : Version) (source : Json) : Except Error (List α) := do
  let copy ← ((Checker.list .object).coerce source).mapError r.outerError
  let entry ← r.select version
  readItems r.typeName (entry version) 0 (copy.list?.getD [])

theorem read_eq_readCopy (r : Reader α) (v : Version) (source : Json) :
    r.read v source = r.readCopy v source := by
  rw [read, readCopy, Checker.coerce_object]
  cases source.expectObject <;> rfl

theorem readList_eq_readListCopy (r : Reader α) (v : Version) (source : Json) :
    r.readList v source = r.readListCopy v source := by
  rw [readList, readListCopy, Checker.coerce_objects]
  cases hshape : source.expectObjects with
  | error fault => rfl
  | ok items =>
    obtain ⟨rfl, -⟩ := Json.list_of_expectObjects hshape
    rfl

/-- **No copy is needed**: the two checkers accept the same values as the looks at the outer shape,
with the same faults for the others, and their copies are the values themselves; so a reader ends in
the same way on the value as on its copy. -/
theorem read_uncopied (r : Reader α) (v : Version) (value : Json) :
    Checker.object.coerce value = value.expectObject.map (fun _ => value) ∧
    (Checker.list .object).coerce value = value.expectObjects.map (fun _ => value) ∧
    r.read v value = r.readCopy v value ∧
    r.readList v value = r.readListCopy v value :=
  ⟨Checker.coerce_object value, Checker.coerce_objects value, r.read_eq_readCopy v value,
    r.readList_eq_readListCopy v value⟩

/-- Element 1 is blamed, under its position, though element 2 is no object either. -/
example : (Checker.list .object).coerce (.list [.object [("a", .null)], .list [], .null]) =
    .error (.mismatch [.item 1] "map" (.list [])) :=
  rfl

end Reader

end RegionClient
