/-!
# Schedules

When a pass counts as large enough to be split over partitions or to be sorted in halves. A
schedule changes how a result is computed and what is logged. It does not change the result where
comparison is a total preorder of the cells in each ordering column, which it is on typed columns.
On loose columns that mix kinds it need not be one, and there a partition that is sorted in halves
may come out in another order than one that is not.
-/

namespace WindowQuery

/-- Thresholds of a pass. -/
structure Schedule where
  enabled : Bool := true
  /-- Rows of the table from which partitions are evaluated side by side. -/
  minRows : Nat := 10000
  /-- Partitions from which they are evaluated side by side. -/
  minPartitions : Nat := 2
  /-- Rows of a partition from which it is sorted in halves. -/
  minSortRows : Nat := 50000
deriving DecidableEq, Repr

namespace Schedule

/-- The default thresholds. -/
def standard : Schedule := {}

/-- The default thresholds, switched off. -/
def sequential : Schedule := { enabled := false }

/-- A row count that no partition reaches. -/
def unreachable : Nat := 0xffffffffffffffff

/-- Whether partitions are evaluated side by side. -/
def isParallel (s : Schedule) (rows partitions : Nat) : Bool :=
  s.enabled && decide (s.minRows ≤ rows) && decide (s.minPartitions ≤ partitions)

/-- Rows of a partition from which it is sorted in halves. -/
def sortThreshold (s : Schedule) : Nat := if s.enabled then s.minSortRows else unreachable

end Schedule

end WindowQuery
