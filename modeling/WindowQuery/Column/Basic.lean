import WindowQuery.QueryError

/-!
# Columns

A column is a name and a typed array of optional cells. Reading never fails: `Column.cell` gives
NULL past the last row, and `Column.isNull` is a reader of its own that looks at the storage
alone (`isNull_eq`).
-/

namespace WindowQuery

/-- Typed **storage** of a column; a missing value is NULL. -/
inductive Storage where
  | int32 (values : Array (Option Int32))
  | int64 (values : Array (Option Int64))
  | float64 (values : Array (Option Float))
  | text (values : Array (Option String))
  | boolean (values : Array (Option Bool))
deriving DecidableEq

namespace Storage

/-- The kind of value stored. It is never `Kind.null`. -/
def kind : Storage → Kind
  | int32 _ => .int32
  | int64 _ => .int64
  | float64 _ => .float64
  | text _ => .text
  | boolean _ => .boolean

/-- Number of rows. -/
def size : Storage → Nat
  | int32 v => v.size
  | int64 v => v.size
  | float64 v => v.size
  | text v => v.size
  | boolean v => v.size

/-- Storage of a kind with every row NULL. Cells of kind NULL are kept as 64-bit integers. -/
def nulls (kind : Kind) (rows : Nat) : Storage :=
  match kind with
  | .int32 => int32 (Array.replicate rows none)
  | .float64 => float64 (Array.replicate rows none)
  | .text => text (Array.replicate rows none)
  | .boolean => boolean (Array.replicate rows none)
  | .int64 | .null => int64 (Array.replicate rows none)

/-- The optional value of a row, none past the end. -/
def value? (values : Array (Option α)) (row : Nat) : Option α := (values[row]?).join

/-- The cell of a row, NULL past the end. Integers of every width come out as 64 bits wide. -/
def cell (s : Storage) (row : Nat) : Cell :=
  match s with
  | int32 v => Cell.ofOption (fun i => .int i.toInt64) (value? v row)
  | int64 v => Cell.ofOption .int (value? v row)
  | float64 v => Cell.ofOption .float (value? v row)
  | text v => Cell.ofOption .text (value? v row)
  | boolean v => Cell.ofOption .bool (value? v row)

/-- Whether a row holds no value. -/
def isNull (s : Storage) (row : Nat) : Bool :=
  match s with
  | int32 v => (value? v row).isNone
  | int64 v => (value? v row).isNone
  | float64 v => (value? v row).isNone
  | text v => (value? v row).isNone
  | boolean v => (value? v row).isNone

theorem isNull_eq (s : Storage) (row : Nat) : s.isNull row = (s.cell row).isNull := by
  cases s <;> simp only [isNull, cell] <;> cases value? _ row <;> rfl

@[simp] theorem size_nulls (kind : Kind) (rows : Nat) : (nulls kind rows).size = rows := by
  cases kind <;> simp [nulls, size]

end Storage

/-- A named, typed column of nullable values. -/
structure Column where
  name : String
  storage : Storage
deriving DecidableEq

namespace Column

/-- A column with every row NULL. -/
def nulls (name : String) (kind : Kind) (rows : Nat) : Column := ⟨name, Storage.nulls kind rows⟩

/-- The declared kind, which is that of the storage. -/
def kind (c : Column) : Kind := c.storage.kind

/-- Number of rows. -/
def size (c : Column) : Nat := c.storage.size

/-- The cell of a row, NULL past the end. -/
def cell (c : Column) (row : Nat) : Cell := c.storage.cell row

/-- Whether a row holds no value, as the storage has it; true past the last row. -/
def isNull (c : Column) (row : Nat) : Bool := c.storage.isNull row

/-- All cells in row order. -/
def cells (c : Column) : List Cell := (List.range c.size).map c.cell

theorem isNull_eq (c : Column) (row : Nat) : c.isNull row = (c.cell row).isNull :=
  c.storage.isNull_eq row

@[simp] theorem size_nulls (name : String) (kind : Kind) (rows : Nat) :
    (nulls name kind rows).size = rows := Storage.size_nulls kind rows

@[simp] theorem length_cells (c : Column) : c.cells.length = c.size := by simp [cells]

end Column

end WindowQuery
