import WindowQuery.View.Basic

/-!
# Sorting a partition

`Partition.sort` orders the slots of a partition by the cells of the ordering columns, earlier
keys first and every key along its own direction. The sort is stable, so rows that agree on every
key keep their order of arrival.

From a threshold on the sort is one that can work on several parts at a time. `sortHalves` stands
for any such sort that is stable: it sorts two halves on their own and merges them. Which sort it is
cannot be seen where comparison is a total preorder of the key cells, as it is on typed columns,
since only one order of the slots is stable then. On loose columns that mix kinds comparison need
not be transitive; no order of the slots has to be sorted there, and the two ways of sorting may
list the same rows differently.
-/

namespace WindowQuery

/-- The order of two slots by their key tuples. -/
def slotOrder (directions : List Bool) (keys : Array (List Cell)) (a b : Nat) : Ordering :=
  Cell.orderTuples directions (keys[a]?.getD []) (keys[b]?.getD [])

/-- Sorts a list in two halves that do not depend on each other. It stands for a stable sort that
works in parallel, of which no more is used than that it is one. -/
def sortHalves (le : α → α → Bool) (xs : List α) : List α :=
  let (front, back) := xs.splitAt (xs.length / 2)
  List.merge (front.mergeSort le) (back.mergeSort le) le

/-- The slots below `size` in stable order; in two halves when there are at least `threshold`. The
threshold does not change the order as long as comparison of the slots is a total preorder. -/
def sortedSlots (order : Nat → Nat → Ordering) (size threshold : Nat) : List Nat :=
  let le := fun a b => (order a b).isLE
  if threshold ≤ size then sortHalves le (List.range size) else (List.range size).mergeSort le

theorem sortHalves_perm (le : α → α → Bool) (xs : List α) : (sortHalves le xs).Perm xs := by
  simp only [sortHalves, List.splitAt_eq]
  have halves := (List.mergeSort_perm (xs.take (xs.length / 2)) le).append
    (List.mergeSort_perm (xs.drop (xs.length / 2)) le)
  rw [List.take_append_drop] at halves
  exact (List.merge_perm_append le).trans halves

/-- Every slot is listed once. -/
theorem sortedSlots_perm (order : Nat → Nat → Ordering) (size threshold : Nat) :
    (sortedSlots order size threshold).Perm (List.range size) := by
  unfold sortedSlots
  split
  · exact sortHalves_perm _ _
  · exact List.mergeSort_perm _ _

namespace Partition

/-- The key tuple of every slot. -/
def keyTuples (p : Partition) (sources : List Source) : Array (List Cell) :=
  p.rows.map (Source.tuple sources)

/-- The view of a partition ordered by the cells of given columns. -/
def viewBy (p : Partition) (sortKeys : List SortKey) (sources : List Source) (threshold : Nat) :
    View :=
  let directions := sortKeys.map SortKey.ascending
  let tuples := p.keyTuples sources
  let slots := (sortedSlots (slotOrder directions tuples) p.size threshold).toArray
  let keys := slots.map fun slot => tuples[slot]?.getD []
  { partition := p
    sortKeys
    slots
    keys
    peers := Runs.ofSame slots.size fun a b =>
      slotOrder (directions.take 1) keys a b == .eq
    ties := Runs.ofSame slots.size fun a b => slotOrder directions keys a b == .eq }

/-- The view of a partition ordered by sort keys; in order of arrival when there are none. Fails
at the first key whose column is missing. -/
def sort (p : Partition) (sortKeys : List SortKey) (threshold : Nat) : Except QueryError View :=
  if sortKeys.isEmpty then .ok p.arrivalView
  else do
    let sources ← p.table.columnsOf (sortKeys.map SortKey.column)
    return p.viewBy sortKeys sources threshold

end Partition

end WindowQuery
