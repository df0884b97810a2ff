import WindowQuery.Grouping
import WindowQuery.Table.Basic

/-!
# Partitions

A partition is a selection of rows of a table, in order of arrival. `Table.partitions` splits
all rows by the values of the partition columns: partitions come in order of their first rows,
and each keeps its rows in table order.

Three numberings of rows occur from here on. A **row** is a place in the table, a **slot** a place
in the partition's own list of rows, and a **logical position** a place in its sorted order.
-/

namespace WindowQuery

/-- Rows of a table, in order of arrival. Rows may repeat or lie past the end of the table, where
every cell is NULL. -/
structure Partition where
  table : Table
  rows : Array Nat
deriving DecidableEq

namespace Partition

/-- Every row of the table. -/
def whole (t : Table) : Partition := ⟨t, Array.range t.rows⟩

/-- Number of slots. -/
def size (p : Partition) : Nat := p.rows.size

/-- The row of a slot. -/
def rowOfSlot (p : Partition) (slot : Nat) : Nat := p.rows[slot]?.getD 0

end Partition

/-! ### Splitting a table by key -/

/-- The cells of several columns at one row. -/
def Source.tuple (sources : List Source) (row : Nat) : List Cell := sources.map fun s => s.cell row

/-- The rows of a table, split by their cells in the partition columns. Without partition columns
all rows form one partition. A table without rows has none, and its partition columns are not
looked up. -/
def Table.partitions (t : Table) (columns : List String) :
    Except QueryError (List (Array Nat)) :=
  if t.rows = 0 then .ok []
  else if columns.isEmpty then .ok [Array.range t.rows]
  else do
    let sources ← t.columnsOf columns
    return (KeyIndex.ofRows (Source.tuple sources) t.rows).groups.toList.map KeyGroup.rows

/-- The partitions by a plain search through the groups found so far. -/
theorem Table.partitions_eq (t : Table) (columns : List String) :
    t.partitions columns =
      if t.rows = 0 then .ok []
      else if columns.isEmpty then .ok [Array.range t.rows]
      else (t.columnsOf columns).map fun sources =>
        (KeyGroup.ofRows (Source.tuple sources) t.rows).map KeyGroup.rows := by
  unfold Table.partitions
  simp only [KeyIndex.toList_groups_ofRows]
  rfl

end WindowQuery
