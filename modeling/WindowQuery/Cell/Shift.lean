import WindowQuery.Cell.Order
import WindowQuery.QueryError

/-!
# Moving a cell by a distance

Addition and subtraction on numeric cells, as RANGE frames need them. Two integers stay exact and
stop at the ends of the 64-bit range; with a double on either side the result is a double.
-/

namespace WindowQuery.Cell

/-- The error of arithmetic on cells that are not both numeric: it names the kind of the first
one that is not. -/
def nonNumeric (a b : Cell) : QueryError :=
  .nonNumericOffset (if a.isNumeric then b.kind else a.kind)

/-- The sum of two numeric cells. -/
def add : Cell → Cell → Except QueryError Cell
  | int a, int b => .ok (int (Int64.ofIntClamp (a.toInt + b.toInt)))
  | int a, float y => .ok (float (Binary64.ofInt a.toInt + y))
  | float x, int b => .ok (float (x + Binary64.ofInt b.toInt))
  | float x, float y => .ok (float (x + y))
  | a, b => .error (nonNumeric a b)

/-- The difference of two numeric cells. -/
def sub : Cell → Cell → Except QueryError Cell
  | int a, int b => .ok (int (Int64.ofIntClamp (a.toInt - b.toInt)))
  | int a, float y => .ok (float (Binary64.ofInt a.toInt - y))
  | float x, int b => .ok (float (x - Binary64.ofInt b.toInt))
  | float x, float y => .ok (float (x - y))
  | a, b => .error (nonNumeric a b)

end WindowQuery.Cell
