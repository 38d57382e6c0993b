import SceneComponent.Decimal.Basic

/-!
# Shortest decimals of doubles

The decimals that read back as a double fill the interval between the middles
to its two neighbours, ends included when its index is even.  The grids of
multiples of a power of ten are tried from coarse to fine: the first grid with a
point in the interval gives the fewest digits, and of its points next to the
double the nearer one is taken, the even one when both are equally near.

All quantities are natural numbers: halves of units, scaled by `10 ^ 340`, so
that every grid that can matter has a natural step.
-/

set_option autoImplicit false

namespace SceneComponent.Decimal

/-- Grids as fine as `10 ^ -finestGrid` are tried. -/
def finestGrid : Nat := 340

/-- Twice the value of an index, in units scaled by `10 ^ finestGrid`. -/
def scaledTwice (index : Nat) : Nat := 2 * Binary64.units index * tenTo finestGrid

/-- The sum of the values of two neighbouring indices, scaled likewise: twice
the middle between them. -/
def scaledMiddle (index : Nat) : Nat :=
  (Binary64.units index + Binary64.units (index + 1)) * tenTo finestGrid

/-- The step of the grid of `10 ^ (grid - finestGrid)` on that scale. -/
def gridStep (grid : Nat) : Nat := 2 * Binary64.unitsPerOne * tenTo grid

/-- Whether a point on the common scale reads back as the double of an index. -/
def readsBack (index point : Nat) : Bool :=
  if index % 2 = 0 then
    scaledMiddle (index - 1) ≤ point && point ≤ scaledMiddle index
  else scaledMiddle (index - 1) < point && point < scaledMiddle index

/-- The multiple of the step of a grid that is next to the double of an index
and reads back as it; of two the nearer, of two equally near the even. -/
def gridPoint? (index grid : Nat) : Option Nat :=
  let step := gridStep grid
  let lower := scaledTwice index / step
  match readsBack index (lower * step), readsBack index ((lower + 1) * step) with
  | true, true =>
      let twice := 2 * scaledTwice index
      let middle := (2 * lower + 1) * step
      if twice < middle then some lower
      else if middle < twice then some (lower + 1)
      else some (lower + lower % 2)
  | true, false => some lower
  | false, true => some (lower + 1)
  | false, false => none

def coarsestPoint (index : Nat) : Nat → Decimal
  | 0 => ⟨(gridPoint? index 0).getD 0, -finestGrid⟩
  | grid + 1 =>
      match gridPoint? index (grid + 1) with
      | some multiple => ⟨multiple, (grid + 1 : Nat) - (finestGrid : Int)⟩
      | none => coarsestPoint index grid

/-- The shortest decimal that reads back as the double of an index, and the
nearest to it among the shortest.  Zero is the coefficient `0`.  The first grid
tried is one power of ten above the first digit. -/
def shortest (index : Nat) : Decimal :=
  if index = 0 then ⟨0, 0⟩
  else
    coarsestPoint index
      (digitCount (scaledTwice index / (2 * Binary64.unitsPerOne)))

end SceneComponent.Decimal
