import WindowQuery.Partition
import WindowQuery.View.Runs
import WindowQuery.Window

/-!
# Ordered views of a partition

A view fixes the logical order of a partition's rows. It remembers the ordering key of every
logical position, the runs of positions that agree on the first key (peers) and those that agree
on all keys (ties).
-/

namespace WindowQuery

/-- A partition in logical order. -/
structure View where
  partition : Partition
  sortKeys : List SortKey
  /-- The slot of each logical position. -/
  slots : Array Nat
  /-- The ordering key of each logical position; no key at all in a view without order. -/
  keys : Array (List Cell)
  /-- Runs of equal first keys. -/
  peers : Runs
  /-- Runs of equal keys. -/
  ties : Runs
deriving DecidableEq

namespace View

/-- Number of logical positions. -/
def size (v : View) : Nat := v.slots.size

/-- Whether the view was sorted by some key, rather than left in order of arrival. -/
def isOrdered (v : View) : Bool := !v.sortKeys.isEmpty

/-- The direction of the first key, ascending without one. -/
def isAscending (v : View) : Bool :=
  match v.sortKeys with
  | [] => true
  | key :: _ => key.ascending

/-- The slot at a logical position. -/
def slotAt (v : View) (p : Nat) : Nat := v.slots[p]?.getD 0

/-- The row at a logical position. -/
def rowAt (v : View) (p : Nat) : Nat := v.partition.rowOfSlot (v.slotAt p)

/-- The rows in logical order. -/
def sortedRows (v : View) : List Nat := v.slots.toList.map v.partition.rowOfSlot

/-- The first ordering key at a logical position, NULL in a view without order. -/
def orderValueAt (v : View) (p : Nat) : Cell := (v.keys[p]?.bind List.head?).getD .null

/-- The order of cells along the direction of the first key. -/
def order (v : View) (a b : Cell) : Ordering := Cell.orderAlong v.isAscending a b

/-- The cell of a column at a logical position. -/
def cellAt (v : View) (s : Source) (p : Nat) : Cell := s.cell (v.rowAt p)

/-- The logical positions in order. -/
def positions (v : View) : List Nat := List.range v.size

end View

/-- The view in order of arrival: all rows are peers and ties. -/
def Partition.arrivalView (p : Partition) : View where
  partition := p
  sortKeys := []
  slots := Array.range p.size
  keys := #[]
  peers := Runs.single p.size
  ties := Runs.single p.size

end WindowQuery
