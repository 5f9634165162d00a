import RegionClient.Number.Binary64

set_option autoImplicit false

/-! # Shortest decimal digits

The fewest decimal digits that read back as a given magnitude, and of those the nearest to it.

The magnitudes that round to `n` fill an interval around it; its ends belong to it if the
significand of `n` is even. On each decimal grid the only candidates are the two neighbours of `n`,
so the coarsest grid with a candidate inside the interval gives the digits.
-/

namespace RegionClient.Binary64

/-- Where a magnitude lies among the doubles: the distance to its upper neighbour is `2 ^ gap`. -/
def gap (units : Nat) : Nat :=
  units.log2 - 52

/-- Four times the lower end of the magnitudes that round to `units`. Below a power of two the
neighbours stand closer. -/
def lowerEnd (units : Nat) : Nat :=
  let s := gap units
  if 0 < s ∧ units = 2 ^ (52 + s) then 4 * units - 2 ^ s else 4 * units - 2 * 2 ^ s

/-- Four times the upper end of the magnitudes that round to `units`. -/
def upperEnd (units : Nat) : Nat :=
  4 * units + 2 * 2 ^ gap units

/-- Whether the ends themselves round to `units`. -/
def endsBelong (units : Nat) : Bool :=
  units / 2 ^ gap units % 2 == 0

/-- The grid of the multiples of `10 ^ power`, one of them being `num / den` units. -/
structure Grid where
  num : Nat
  den : Nat

/-- The grid of a power of ten. -/
def grid : Int → Grid
  | .ofNat k => ⟨10 ^ k * one, 1⟩
  | .negSucc k => ⟨one, 10 ^ (k + 1)⟩

/-- Whether the `d`-th point of a grid rounds to `units`. -/
def Grid.hits (g : Grid) (units d : Nat) : Bool :=
  let point := 4 * d * g.num
  let low := lowerEnd units * g.den
  let high := upperEnd units * g.den
  if endsBelong units then low ≤ point && point ≤ high else low < point && point < high

/-- The point of a grid that rounds to `units` and is nearest to it, an even one if two are. -/
def Grid.nearest? (g : Grid) (units : Nat) : Option Nat :=
  let below := units * g.den / g.num
  let excess := units * g.den - below * g.num
  let deficit := (below + 1) * g.num - units * g.den
  match g.hits units below, g.hits units (below + 1) with
  | true, true =>
    if excess < deficit ∨ excess = deficit ∧ below % 2 = 0 then some below else some (below + 1)
  | true, false => some below
  | false, true => some (below + 1)
  | false, false => none

/-- The powers of ten of the grids to try, from above the greatest double to below the least. -/
def gridPowers : List Int :=
  (List.range 640).map fun (i : Nat) => 309 - (i : Int)

/-- The shortest decimal `digits * 10 ^ scale` that reads back as a magnitude. -/
def shortest (units : Nat) : Nat × Int :=
  if units = 0 then (0, 0)
  else
    (gridPowers.findSome? fun p => ((grid p).nearest? units).map fun d => (d, p)).getD
      (units * 5 ^ 1074, -1074)

end RegionClient.Binary64
