import Mathlib
import WindowQuery.Proofs.Evaluation.Gather
import WindowQuery.Proofs.Function.Totals
import WindowQuery.Proofs.Partition.Groups
import WindowQuery.Proofs.View.Arrival

/-!
# Running aggregates

A window with ordering keys and without a frame of its own runs from the first row of a partition
to the current one. The rows up to the current one are known without any sorting
(`Table.upTo`): they agree with it in the partition columns, and their keys come before its keys,
or tie with them at an earlier or the same row. Counts, sums and extremes of integers over such
a window are the totals of these rows (`Expression.evaluate_running`).
-/

namespace WindowQuery

/-! ### Rows up to a row -/

namespace Table

/-- The rows of a group **up to** a row: those with earlier keys, and those with the same keys
that do not come after it in the table. -/
def upTo (t : Table) (names : List String) (sortKeys : List SortKey) (r : Nat) : List Nat :=
  (t.group names r).filter fun r' =>
    t.rowOrder sortKeys r' r == .lt || (t.rowOrder sortKeys r' r == .eq && decide (r' ≤ r))

theorem mem_upTo {t : Table} {names : List String} {sortKeys : List SortKey} {r r' : Nat} :
    r' ∈ t.upTo names sortKeys r ↔ r' ∈ t.group names r ∧
      (t.rowOrder sortKeys r' r = .lt ∨ t.rowOrder sortKeys r' r = .eq ∧ r' ≤ r) := by
  simp [upTo]

theorem nodup_upTo (t : Table) (names : List String) (sortKeys : List SortKey) (r : Nat) :
    (t.upTo names sortKeys r).Nodup :=
  List.Nodup.filter _ ((t.pairwise_group names r).imp Nat.ne_of_lt)

end Table

/-- **The running frame of a position holds the rows up to its row**, in some order. -/
theorem View.SortedBy.rowsIn_running_perm {v : View} {sources : List Source}
    (h : v.SortedBy sources) (hsources : ∀ s ∈ sources, s.OrdersRows) {names : List String}
    {r : Nat} (hrows : v.partition.rows.toList = v.partition.table.group names r) {p : Nat}
    (hp : p < v.size) (hr : v.rowAt p = r) :
    (v.rowsIn ⟨0, p + 1⟩).Perm (v.partition.table.upTo names v.sortKeys r) := by
  have ascending : v.partition.rows.toList.Pairwise (· < ·) := by
    rw [hrows]
    exact Table.pairwise_group _ names r
  have position {q : Nat} : q ∈ (Span.mk 0 (p + 1)).positions ↔ q ≤ p := by
    rw [Span.mem_positions, Span.mem_iff]
    dsimp only
    omega
  have nodup : (v.rowsIn ⟨0, p + 1⟩).Nodup := by
    refine List.Nodup.map_on (fun i hi j hj heq => ?_) List.nodup_range'
    have hi' := Nat.lt_of_le_of_lt (position.mp hi) hp
    have hj' := Nat.lt_of_le_of_lt (position.mp hj) hp
    exact h.complete.rowAt_inj (ascending.imp Nat.ne_of_lt) hi' hj' heq
  -- neither side repeats a row, so it is enough that they hold the same ones
  rw [List.perm_ext_iff_of_nodup nodup (Table.nodup_upTo _ _ _ _)]
  intro r'
  rw [rowsIn, List.mem_map, Table.mem_upTo]
  have order {q : Nat} (hq : q < v.size) :
      v.partition.table.rowOrder v.sortKeys (v.rowAt q) r = v.tieOrder q p := by
    rw [h.tieOrder_eq_rowOrder hq hp, hr]
  rw [← hrows]
  constructor
  · rintro ⟨q, hq, rfl⟩
    have hqp := position.mp hq
    have hq' := Nat.lt_of_le_of_lt hqp hp
    refine ⟨h.complete.rowAt_mem hq', ?_⟩
    rw [order hq', ← hr]
    exact (h.le_iff_row hsources ascending hq' hp).mp hqp
  · rintro ⟨hmem, hle⟩
    -- every row of the partition has a position, and the order places it up to `p`
    obtain ⟨slot, hslot⟩ := List.mem_iff_getElem?.mp hmem
    obtain ⟨q, hq, -, rfl⟩ := h.complete.exists_rowAt_eq hslot
    rw [order hq, ← hr] at hle
    exact ⟨q, position.mpr ((h.le_iff_row hsources ascending hq hp).mpr hle), rfl⟩

/-! ### Evaluation -/

/-- Functions that total rows accept their arguments and find their column. -/
theorem Function.Totals.check_eq {t : Table} {fn : Function} {value : List Nat → Int64}
    (h : fn.Totals t value) : fn.check = .ok () ∧ ∃ kind, fn.inputKind t = .ok kind := by
  cases h with
  | countRows => exact ⟨rfl, .null, rfl⟩
  | count hs => exact ⟨rfl, _, map_eq_ok.mpr ⟨_, hs, rfl⟩⟩
  | aggregate hc hbits ha => exact ⟨rfl, _, map_eq_ok.mpr ⟨_, hc, rfl⟩⟩

namespace Expression

section

variable {e : Expression} {t : Table} {value : List Nat → Int64} (hvalue : e.function.Totals t value)
  (hordered : e.window.orderBy ≠ []) (hframe : e.window.frame? = none)
include hvalue hordered hframe

/-- A group of rows is computed to the totals of the rows up to each of them. -/
theorem exists_overRows_running (names : List String) {group : List Nat} {sources : List Source}
    (hsources : t.columnsOf (e.window.orderBy.map SortKey.column) = .ok sources)
    (orders : ∀ s ∈ sources, s.OrdersRows) (hgroup : ∀ r ∈ group, t.group names r = group)
    (schedule : Schedule) :
    ∃ segment, e.overRows schedule t group.toArray = .ok segment ∧ ∀ k r, group[k]? = some r →
      segment.cell k = .int (value (t.upTo names e.window.orderBy r)) := by
  obtain ⟨v, hsort, hpartition, hkeys, h⟩ :=
    Partition.exists_sort ⟨t, group.toArray⟩ hordered hsources schedule.sortThreshold
  -- with ordering keys the default frame is the running one
  have running : e.window.frame = .running := by
    simp [Window.frame, hframe, Window.defaultFrame, Window.isOrdered, hordered]
  have totals : e.function.Totals v.partition.table value := by rwa [hpartition]
  obtain ⟨segment, hsegment, cells⟩ :=
    totals.exists_compute h.complete fun p hp => View.frameAt_running hp
  refine ⟨segment, bind_eq_ok.mpr ⟨v, hsort, ?_⟩, fun k r hk => ?_⟩
  · rw [running]
    exact hsegment
  · have hslot : v.partition.rows.toList[k]? = some r := by rwa [hpartition]
    obtain ⟨p, hp, rfl, row⟩ := h.complete.exists_rowAt_eq hslot
    have rows : v.partition.rows.toList = v.partition.table.group names r := by
      rw [hpartition]
      exact (hgroup r (List.mem_of_getElem? hk)).symm
    have perm := h.rowsIn_running_perm orders rows hp row
    rw [hpartition, hkeys] at perm
    rw [cells p hp, hvalue.perm perm]

/-- **Running aggregates are totals.** Over typed columns, with ordering keys and without a frame,
a function that totals rows has a value, and its cell at every row is the total of the rows up to
that row. -/
theorem evaluate_running {columns : List Column}
    (ht : Table.ofSources (columns.map .typed) = .ok t)
    (hpartitionBy : ∀ name ∈ e.window.partitionBy, name ∈ t.names)
    (horderBy : ∀ key ∈ e.window.orderBy, key.column ∈ t.names) (schedule : Schedule) :
    ∃ out, e.evaluate schedule false t = .ok out ∧ out.size = t.rows ∧ ∀ r < t.rows,
      out.cell r = .int (value (t.upTo e.window.partitionBy e.window.orderBy r)) := by
  have indexed := (Table.indexed_ofSources ht).1
  have typed := Table.typed_ofSources ht
  have horderBy' : ∀ name ∈ e.window.orderBy.map SortKey.column, name ∈ t.names := by
    simpa using horderBy
  obtain ⟨splitters, hsplitters⟩ := indexed.exists_columnsOf hpartitionBy
  obtain ⟨sources, hsources⟩ := indexed.exists_columnsOf horderBy'
  have splits := typed.splitsRows hsplitters
  obtain ⟨partitions, hpartitions, members⟩ := Table.exists_partitions hsplitters splits
  -- the partition of a row is its group, and so it is for all rows in it
  have computed (r : Nat) := exists_overRows_running hvalue hordered hframe
    e.window.partitionBy hsources (typed.ordersRows hsources)
    (fun r' hr' => Table.group_eq hsplitters splits (r := r) hr') schedule
  have hcheck : e.check = .ok () := by
    refine bind_eq_ok.mpr ⟨(), ?_, hvalue.check_eq.1⟩
    rw [Window.check, hframe]
  obtain ⟨kind, hkind⟩ := hvalue.check_eq.2
  have houtput : e.outputKind t = .ok (e.function.resultKind kind) := by
    rw [outputKind_eq, hkind]
    rfl
  obtain ⟨out, hout, -, -, hsize, written⟩ := exists_evaluate schedule hcheck houtput
    hpartitions fun rows hmem => by
      obtain ⟨r, -, rfl⟩ := (members rows).mp hmem
      obtain ⟨segment, hsegment, -⟩ := computed r
      exact ⟨segment, hsegment⟩
  refine ⟨out, hout, hsize, ?_⟩
  intro r hr
  obtain ⟨segment, hsegment, cells⟩ := computed r
  obtain ⟨k, hk⟩ := List.mem_iff_getElem?.mp (Table.mem_group_self e.window.partitionBy hr)
  rw [written _ ((members _).mpr ⟨r, hr, rfl⟩) segment hsegment k r hk, cells k r hk]

end

/-- Scores of two teams by day, one of them missing and one as great as 32 bits allow. -/
private def scores : List Column :=
  [⟨"team", .text #[some "a", some "b", some "a", some "a"]⟩,
    ⟨"day", .int64 #[some 2, some 1, some 2, some 1]⟩,
    ⟨"score", .int32 #[some 2147483647, none, some 1, some 5]⟩]

private def scoreTable : Table := ⟨scores.map .typed, [("score", 2), ("day", 1), ("team", 0)]⟩

/-- The running score of each team. -/
private def runningScore : Expression :=
  ⟨.aggregate .sum "score", { partitionBy := ["team"], orderBy := [⟨"day", true⟩] }, none⟩

/-- The total of the first team wraps around as soon as a score joins the greatest one. -/
theorem evaluate_running_scores :
    ∃ out, runningScore.evaluate .standard false scoreTable = .ok out ∧ out.size = 4 ∧
      out.cell 0 = .int (-2147483644) ∧ out.cell 1 = .int 0 ∧ out.cell 2 = .int (-2147483643) ∧
      out.cell 3 = .int 5 := by
  have ht : Table.ofSources (scores.map .typed) = .ok scoreTable := rfl
  have totals : runningScore.function.Totals scoreTable _ := .aggregate rfl rfl .sum
  obtain ⟨out, hout, hsize, cells⟩ :=
    evaluate_running totals (by decide) rfl ht (by decide) (by decide) .standard
  refine ⟨out, hout, hsize, ?_, ?_, ?_, ?_⟩
  · exact (cells 0 (by decide)).trans (by cbv)
  · exact (cells 1 (by decide)).trans (by cbv)
  · exact (cells 2 (by decide)).trans (by cbv)
  · exact (cells 3 (by decide)).trans (by cbv)

end Expression

end WindowQuery
