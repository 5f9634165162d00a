set_option autoImplicit false

/-! # Pieces of a text

A text cut at its separators, and pieces put together with a separator between them. A text without
separators is one piece, and so is the empty text.
-/

namespace RegionClient.Text

/-- The pieces before, between and after the separators of a text. -/
def pieces (isSeparator : Char → Bool) : List Char → List (List Char)
  | [] => [[]]
  | c :: s =>
    if isSeparator c then [] :: pieces isSeparator s
    else
      match pieces isSeparator s with
      | [] => [[c]]
      | p :: ps => (c :: p) :: ps

theorem pieces_ne_nil (isSeparator : Char → Bool) (s : List Char) :
    pieces isSeparator s ≠ [] := by
  cases s with
  | nil => simp [pieces]
  | cons c s =>
    simp only [pieces]
    split
    · simp
    · split <;> simp

/-- The pieces of a text between separators. -/
def split (isSeparator : Char → Bool) (s : String) : List String :=
  (pieces isSeparator s.toList).map String.ofList

/-- Texts with a separator between each two. -/
def joined (separator : String) (texts : List String) : String :=
  separator.intercalate texts

theorem toList_joined_cons (separator t t' : String) (rest : List String) :
    (joined separator (t :: t' :: rest)).toList =
      t.toList ++ (separator.toList ++ (joined separator (t' :: rest)).toList) := by
  simp [joined, String.intercalate_cons_cons]

end RegionClient.Text
