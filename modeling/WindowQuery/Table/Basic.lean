import WindowQuery.Column.Basic

/-!
# Tables

A table is a sequence of columns of one length with distinct names, and an index from names to
places in the sequence. `Table.add` is the only way in: it refuses a name that is taken and a
length that differs from that of the first column.

A column of a table may also be **loose**: it declares a kind without its cells being held to it.
-/

namespace WindowQuery

/-- A column as a table holds it. -/
inductive Source where
  /-- A column whose cells are of its kind. -/
  | typed (column : Column)
  /-- A column that declares a kind and holds cells of any. -/
  | loose (name : String) (kind : Kind) (cells : Array Cell)
deriving DecidableEq

namespace Source

/-- The name of the column. -/
def name : Source → String
  | typed c => c.name
  | loose name _ _ => name

/-- The declared kind. -/
def kind : Source → Kind
  | typed c => c.kind
  | loose _ kind _ => kind

/-- Number of rows. -/
def size : Source → Nat
  | typed c => c.size
  | loose _ _ cells => cells.size

/-- The cell of a row, NULL past the end. -/
def cell (s : Source) (row : Nat) : Cell :=
  match s with
  | typed c => c.cell row
  | loose _ _ cells => cells[row]?.getD .null

/-- Whether a row holds no value. A typed column has a reader of its own for this. -/
def isNull (s : Source) (row : Nat) : Bool :=
  match s with
  | typed c => c.isNull row
  | loose _ _ cells => (cells[row]?.getD .null).isNull

/-- All cells in row order. -/
def cells (s : Source) : List Cell := (List.range s.size).map s.cell

theorem isNull_eq (s : Source) (row : Nat) : s.isNull row = (s.cell row).isNull := by
  cases s with
  | typed c => exact c.isNull_eq row
  | loose => rfl

end Source

/-- Named columns of equal length. -/
structure Table where
  /-- The columns in order of insertion. -/
  columns : List Source := []
  /-- The place of each name in `columns`. -/
  index : List (String × Nat) := []
deriving DecidableEq

namespace Table

/-- The table without columns. -/
def empty : Table := {}

/-- Number of rows of every column, zero for a table without columns. -/
def rows (t : Table) : Nat :=
  match t.columns with
  | [] => 0
  | first :: _ => first.size

/-- Column names in order of insertion. -/
def names (t : Table) : List String := t.columns.map Source.name

/-- Whether a name is taken, by the index. -/
def contains (t : Table) (name : String) : Bool := (t.index.lookup name).isSome

/-- The column of a name, if there is one. -/
def column? (t : Table) (name : String) : Option Source :=
  (t.index.lookup name).bind fun place => t.columns[place]?

/-- The column of a name. -/
def column (t : Table) (name : String) : Except QueryError Source :=
  match t.column? name with
  | some source => .ok source
  | none => .error (.columnNotFound name)

/-- Appends a column. The name is checked before the length. -/
def add (t : Table) (source : Source) : Except QueryError Table :=
  if t.contains source.name then .error (.duplicateColumn source.name)
  else if t.columns ≠ [] ∧ source.size ≠ t.rows then
    .error (.columnLengthMismatch source.name t.rows source.size)
  else
    .ok
      { columns := t.columns ++ [source]
        index := (source.name, t.columns.length) :: t.index }

/-- The table of a list of columns, added from first to last. -/
def ofSources (sources : List Source) : Except QueryError Table := sources.foldlM add empty

/-- The columns of several names, in the order of the names. Fails at the first that is
missing. -/
def columnsOf (t : Table) (names : List String) : Except QueryError (List Source) :=
  names.mapM t.column

end Table

end WindowQuery
