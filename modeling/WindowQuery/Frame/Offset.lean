import WindowQuery.Cell.Basic

/-!
# Frame offsets

The number in `3 PRECEDING`: an integer or a double. `Offset.count?` is its reading as a number
of rows or groups, `Offset.toCell` its reading as a distance between order values.
-/

namespace WindowQuery

/-- The distance of a frame bound from the current row. -/
inductive Offset where
  | int (value : Int64)
  | float (value : Float)
deriving DecidableEq

namespace Offset

/-- Less than zero. Negative zero and NaN are not. -/
def isNegative : Offset → Bool
  | int i => decide (i.toInt < 0)
  | float x => Binary64.isBelowZero x

/-- Zero, as an integer or as either zero of doubles. -/
def isZero : Offset → Bool
  | int i => decide (i.toInt = 0)
  | float x => Binary64.isZero x

/-- The distance without its sign. The least integer has no counterpart and goes to the
greatest. -/
def abs : Offset → Offset
  | int i => int (Int64.ofIntClamp i.toInt.natAbs)
  | float x => float (Binary64.abs x)

/-- The offset as a distance between order values. -/
def toCell : Offset → Cell
  | int i => .int i
  | float x => .float x

/-- The offset as a number of rows or groups, if it is a non-negative integer. -/
def count? : Offset → Option Nat
  | int i => if 0 ≤ i.toInt then some i.toInt.toNat else none
  | float _ => none

/-- Whether the offset can be a distance: a finite number that is not below zero. -/
def isDistance : Offset → Bool
  | int i => decide (0 ≤ i.toInt)
  | float x => Binary64.isFinite x && !Binary64.isBelowZero x

/-- Doubles in a frame clause are always written positionally. -/
def numberLayout : Decimal.Layout := ⟨none⟩

/-- The offset as written. -/
def render : Offset → String
  | int i => toString i.toInt
  | float x => Decimal.textOfDouble numberLayout x

end Offset

end WindowQuery
