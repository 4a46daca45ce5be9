import CalculatorTrials.Decimal.Basic

/-!
# Shortest decimal of a binary64 value

The reals that round to one magnitude form an interval, its cell. The shortest
decimal of a magnitude is found on the coarsest grid `10 ^ k` that has a point
in the cell, and is the point of that grid nearest to the value. On every grid
only the two neighbours of the value matter.

Lengths are counted in `2 ^ (-1074) * 10 ^ (-324)`, which makes the bounds of
all cells and the points of all grids with `-324 ≤ k` whole numbers. The grid
with `k = -324` is finer than any cell, so the search ends there.
-/

namespace CalculatorTrials
namespace Decimal

/-- The reals that round to one magnitude. -/
structure Cell where
  /-- Twice the lower bound. -/
  twiceLower : Nat
  /-- The value itself. -/
  centre : Nat
  /-- Twice the upper bound. -/
  twiceUpper : Nat
  /-- Whether the bounds belong to the cell. -/
  closed : Bool

namespace Cell

/-- The number of lengths in a unit. -/
def lengthsInUnit : Nat := Nat.pow 10 324

/-- The cell of a positive finite magnitude. It reaches halfway to the two
neighbours, and ties go to even magnitudes. -/
def ofMagnitude (magnitude : Nat) : Cell :=
  let centre := Binary64.units magnitude * lengthsInUnit
  { twiceLower := Binary64.units (magnitude - 1) * lengthsInUnit + centre
    centre := centre
    twiceUpper := centre + Binary64.units (magnitude + 1) * lengthsInUnit
    closed := magnitude % 2 == 0 }

/-- Whether a point lies in a cell. -/
def contains (cell : Cell) (point : Nat) : Bool :=
  if cell.closed then
    cell.twiceLower ≤ 2 * point && 2 * point ≤ cell.twiceUpper
  else
    cell.twiceLower < 2 * point && 2 * point < cell.twiceUpper

/-- The number of the grid point in the cell that is nearest to the value, if
the grid has a point in the cell. -/
def gridPoint? (cell : Cell) (spacing : Nat) : Option Nat :=
  let below := cell.centre / spacing
  match cell.contains (below * spacing),
      cell.contains ((below + 1) * spacing) with
  | true, true => some (Binary64.divideToEven cell.centre spacing)
  | true, false => some below
  | false, true => some (below + 1)
  | false, false => none

/-- The decimal on the coarsest grid with a point in the cell, among the grids
of spacing `10 ^ (place - 324)` and finer ones. -/
def shortestFrom (cell : Cell) : (place : Nat) → Decimal
  | 0 => ⟨Binary64.divideToEven cell.centre Binary64.unitsInOne, -324⟩
  | place + 1 =>
      match cell.gridPoint? (Nat.pow 10 (place + 1) * Binary64.unitsInOne) with
      | some digits => ⟨digits, (place + 1 : Nat) - 324⟩
      | none => cell.shortestFrom place

end Cell

/-- The shortest decimal that rounds to a positive finite magnitude, and the
nearest to it of that length; of two equally near, the even one.

A magnitude is less than `10 ^ (place - 324)` for the place at which the search
starts, since `30103 / 100000` exceeds the decimal logarithm of two. -/
def shortest (magnitude : Nat) : Decimal :=
  (Cell.ofMagnitude magnitude).shortestFrom
    ((Binary64.units magnitude).log2 * 30103 / 100000 + 2)

end Decimal
end CalculatorTrials
