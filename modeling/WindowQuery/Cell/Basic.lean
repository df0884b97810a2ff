import WindowQuery.Kind
import WindowQuery.Number.Decimal

/-!
# Cells

A **cell** is a dynamically typed value read from a column: NULL, an integer of any width, a
double, a text or a boolean. Ordering keys, partition keys and the literal arguments of functions
are cells.
-/

namespace WindowQuery

/-- A dynamically typed value. -/
inductive Cell where
  | null
  | int (value : Int64)
  | float (value : Float)
  | text (value : String)
  | bool (value : Bool)
deriving DecidableEq

instance : Inhabited Cell := ⟨.null⟩

namespace Cell

/-- The kind of a cell; integers count as 64 bits wide whatever column they come from. -/
def kind : Cell → Kind
  | null => .null
  | int _ => .int64
  | float _ => .float64
  | text _ => .text
  | bool _ => .boolean

/-- Whether the cell is NULL. No other cell is, NaN and the empty text included. -/
def isNull : Cell → Bool
  | null => true
  | _ => false

/-- Whether the cell is an integer or a double. -/
def isNumeric : Cell → Bool
  | int _ | float _ => true
  | _ => false

/-- The integer a numeric cell stands for; doubles are truncated. -/
def int? : Cell → Option Int64
  | int i => some i
  | float x => some (Binary64.toInt64 x)
  | _ => none

/-- The double a numeric cell stands for; integers are rounded. -/
def float? : Cell → Option Float
  | int i => some (Binary64.ofInt i.toInt)
  | float x => some x
  | _ => none

/-- The text of a text cell. Other cells are not converted. -/
def text? : Cell → Option String
  | text s => some s
  | _ => none

/-- The truth value of a boolean cell. Other cells are not converted. -/
def bool? : Cell → Option Bool
  | bool b => some b
  | _ => none

/-- The cell of an optional value, NULL when there is none. -/
def ofOption (f : α → Cell) : Option α → Cell
  | some a => f a
  | none => null

@[simp] theorem ofOption_none (f : α → Cell) : ofOption f none = null := rfl

@[simp] theorem ofOption_some (f : α → Cell) (a : α) : ofOption f (some a) = f a := rfl

theorem isNull_iff (c : Cell) : c.isNull = true ↔ c = null := by cases c <;> simp [isNull]

/-! ### Text -/

/-- Doubles are written positionally from `0.0001` up to below `1e16`. -/
def numberLayout : Decimal.Layout := ⟨some (-3, 16)⟩

/-- The text of a cell; a text cell is written as it is. -/
def render : Cell → String
  | null => "NULL"
  | int i => toString i.toInt
  | float x => Decimal.textOfDouble numberLayout x
  | text s => s
  | bool true => "true"
  | bool false => "false"

end Cell

end WindowQuery
