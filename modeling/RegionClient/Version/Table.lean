import RegionClient.Error

set_option autoImplicit false

/-! # Version tables

What to do from which version on. A look-up takes the entry with the greatest version that is not
above the requested one, and of entries with one version the last.
-/

namespace RegionClient

/-- Entries for the versions from which on they hold, under the name of what they are for. -/
structure VersionTable (α : Type) where
  typeName : String
  entries : List (Version × α)

namespace VersionTable

variable {α : Type}

/-- The versions with an entry, in the order of the table. -/
def versions (table : VersionTable α) : List Version :=
  table.entries.map Prod.fst

/-- The entry with the greatest version up to `requested`, the last of several. -/
def best? (requested : Version) : List (Version × α) → Option (Version × α)
  | [] => none
  | e :: rest =>
    match best? requested rest with
    | none => if e.1 ≤ requested then some e else none
    | some later => if e.1 ≤ requested ∧ later.1 < e.1 then some e else some later

/-- The entry for a requested version. -/
def select (table : VersionTable α) (requested : Version) : Except Error (Version × α) :=
  match best? requested table.entries with
  | some e => .ok e
  | none => .error (.unsupportedVersion table.typeName requested)

end VersionTable

end RegionClient
