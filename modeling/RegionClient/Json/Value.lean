import RegionClient.Number.Binary64
import RegionClient.Sorted

set_option autoImplicit false

/-! # Wire values

A decoded document: null, booleans, numbers, texts, lists and objects. A number is an integer or a
double, and stays what it is: `1` and `1.0` are different values. The decoder makes integers from
`-2 ^ 63` up to `2 ^ 64`, the latter excluded, and objects whose keys ascend.
-/

namespace RegionClient

/-- A decoded value. -/
inductive Json where
  | null
  | bool (value : Bool)
  | integer (value : Int)
  | double (value : Binary64)
  | string (value : String)
  | list (items : List Json)
  | object (entries : List (String × Json))

namespace Json

instance : Inhabited Json :=
  ⟨null⟩

/-- Whether the value is null. -/
def isNull : Json → Bool
  | null => true
  | _ => false

/-- The text of a text value. -/
def string? : Json → Option String
  | string s => some s
  | _ => none

/-- The truth value of a boolean. -/
def bool? : Json → Option Bool
  | bool b => some b
  | _ => none

/-- The items of a list. -/
def list? : Json → Option (List Json)
  | list items => some items
  | _ => none

/-- The entries of an object. -/
def object? : Json → Option (List (String × Json))
  | object entries => some entries
  | _ => none

/-- The integer as a signed 64-bit number, if it is an integer in that range. -/
def int64? : Json → Option Int64
  | integer n => if -2 ^ 63 ≤ n ∧ n < 2 ^ 63 then some (Int64.ofInt n) else none
  | _ => none

/-- The integer as an unsigned 64-bit number, if it is an integer in that range. -/
def uint64? : Json → Option UInt64
  | integer n => if 0 ≤ n ∧ n < 2 ^ 64 then some (UInt64.ofNat n.toNat) else none
  | _ => none

/-- The value under a key of an object. -/
def get? (key : String) : Json → Option Json
  | object entries => findEntry key entries
  | _ => none

/-- The object of a list of entries; of two with one key the later counts. -/
def ofEntries (entries : List (String × Json)) : Json :=
  object (SortedMap.ofList entries).entries

end Json

end RegionClient
