import Mathlib
import WindowQuery.Proofs.Evaluation.Gather
import WindowQuery.Proofs.Function.Ranking
import WindowQuery.Proofs.View.Counting

/-!
# Rankings by counting

What a ranking gives for a row is known without any sorting: it is made of counts of the rows in
its partition, of those that come before it, of their different keys and of those that tie with it
(`Table.standing`). `Function.Counts` lists the rankings with the cell that each has by counting,
and `Expression.evaluate_standing` says that they evaluate to these cells. Row numbers count the
rows of every partition from one on, each once.
-/

namespace WindowQuery

/-- Functions that **count**: what they make of the standing of a row. -/
inductive Function.Counts : Function → (Standing → Cell) → Prop
  | rank : Counts (.ranking .rank) fun s => .int (Int64.ofNat (s.before + 1))
  | denseRank : Counts (.ranking .denseRank) fun s => .int (Int64.ofNat (s.keysBefore + 1))
  | rowNumber : Counts .rowNumber fun s => .int (Int64.ofNat (s.before + s.tiesBefore + 1))
  | percentRank : Counts (.ranking .percentRank) fun s =>
    .float (if s.rows = 1 then 0 else Binary64.ofNat s.before / Binary64.ofNat (s.rows - 1))
  | cumeDist : Counts (.ranking .cumeDist) fun s =>
    .float (Binary64.ofNat (s.before + s.ties) / Binary64.ofNat s.rows)

namespace Function.Counts

variable {fn : Function} {value : Standing → Cell} (h : fn.Counts value)
include h

/-- Counting gives a value in every standing. -/
theorem ne_null (s : Standing) : value s ≠ .null := by
  cases h <;> simp

theorem check_eq : fn.check = .ok () := by
  cases h <;> rfl

theorem inputKind_eq (t : Table) : fn.inputKind t = .ok .null := by
  cases h <;> rfl

/-- **Over a view that ranks its rows** the cell of a position counts its standing. -/
theorem exists_compute {v : View} (hv : v.RanksRows) (f : Frame) :
    ∃ segment, fn.compute v f = .ok segment ∧
      ∀ p < v.size, segment.cell (v.slotAt p) = value (v.standingAt p) := by
  have ranked (r : Ranking) {p : Nat} (hp : p < v.size) :
      (⟨r.name, r.storageOf v⟩ : Column).cell (v.slotAt p) =
        r.cellOf v.size (v.ties.indexOf p) (v.ties.spanAt p) := r.cell_storageOf hv.complete hp
  cases h with
  | rank =>
    refine ⟨_, rfl, fun p hp => (ranked .rank hp).trans ?_⟩
    dsimp only [Ranking.cellOf]
    rw [hv.standingAt_before hp]
  | denseRank =>
    refine ⟨_, rfl, fun p hp => (ranked .denseRank hp).trans ?_⟩
    dsimp only [Ranking.cellOf]
    rw [hv.standingAt_keysBefore hp]
  | rowNumber =>
    refine ⟨_, rfl, fun p hp => ?_⟩
    have written := View.value?_layout hv.complete
      (View.getElem?_map_positions hp fun p => Int64.ofNat (p + 1)) (by simp [View.positions])
    refine (congrArg (Cell.ofOption .int) written).trans ?_
    exact congrArg (fun place => Cell.int (Int64.ofNat (place + 1))) (hv.standingAt_place hp).symm
  | percentRank =>
    refine ⟨_, rfl, fun p hp => (ranked .percentRank hp).trans ?_⟩
    -- there is a position, so zero rows need not be told from one
    have single : v.size ≤ 1 ↔ v.size = 1 := by omega
    dsimp only [Ranking.cellOf]
    rw [hv.standingAt_before hp, hv.standingAt_rows]
    simp only [single]
  | cumeDist =>
    refine ⟨_, rfl, fun p hp => (ranked .cumeDist hp).trans ?_⟩
    dsimp only [Ranking.cellOf]
    rw [hv.standingAt_ties hp, hv.standingAt_rows]

end Function.Counts

/-! ### Groups of rows -/

section

variable {t : Table} {sortKeys : List SortKey} {sources : List Source}
  (hsources : t.columnsOf (sortKeys.map SortKey.column) = .ok sources)
  (orders : ∀ s ∈ sources, s.OrdersRows) {rows : List Nat} (ascending : rows.Pairwise (· < ·))
include hsources orders ascending

/-- A group of rows is computed to what counting makes of the standing of each of them. -/
theorem Expression.exists_overRows_standing {e : Expression} (hkeys : e.window.orderBy = sortKeys)
    {value : Standing → Cell} (hvalue : e.function.Counts value) (schedule : Schedule) :
    ∃ segment, e.overRows schedule t rows.toArray = .ok segment ∧
      ∀ k r, rows[k]? = some r → segment.cell k = value (t.standing sortKeys rows r) := by
  obtain ⟨v, hsort, hpartition, hv, h⟩ :=
    Partition.exists_sort_ranksRows (p := ⟨t, rows.toArray⟩) hsources orders ascending
      schedule.sortThreshold
  obtain ⟨segment, hsegment, cells⟩ := hvalue.exists_compute h e.window.frame
  refine ⟨segment, bind_eq_ok.mpr ⟨v, by rw [hkeys]; exact hsort, hsegment⟩, fun k r hk => ?_⟩
  have hslot : v.partition.rows.toList[k]? = some r := by rwa [hpartition]
  obtain ⟨p, hp, rfl, rfl⟩ := h.complete.exists_rowAt_eq hslot
  rw [cells p hp, View.standingAt, hpartition, hv]

/-- **The places of rows** are the numbers below their number, each once. -/
theorem Table.map_place_perm :
    (rows.map fun r => (t.standing sortKeys rows r).place).Perm (List.range rows.length) := by
  obtain ⟨v, -, hpartition, hv, h⟩ :=
    Partition.exists_sort_ranksRows (p := ⟨t, rows.toArray⟩) hsources orders ascending 0
  have perm := h.complete.map_rowAt_perm.map fun r => (t.standing sortKeys rows r).place
  have positions : (List.range v.size).map ((fun r => (t.standing sortKeys rows r).place) ∘
      v.rowAt) = List.range v.size := by
    refine (List.map_congr_left fun p hp => ?_).trans (List.map_id _)
    have place := h.standingAt_place (List.mem_range.mp hp)
    rwa [View.standingAt, hpartition, hv] at place
  rw [List.map_map, positions, h.complete.size_eq, hpartition] at perm
  exact perm.symm

end

namespace Expression

/-- **Rankings count.** Over typed columns, a ranking has a value for every window clause with
existing columns and a frame that suits its unit, if any. Its cell at every row is what counting
makes of the standing of the row in its partition, and is not NULL. Row numbers count the rows of
every partition from one on. -/
theorem evaluate_standing {columns : List Column} {t : Table}
    (ht : Table.ofSources (columns.map .typed) = .ok t) {e : Expression} {value : Standing → Cell}
    (hvalue : e.function.Counts value) (hwindow : e.window.check = .ok ())
    (hpartitionBy : ∀ name ∈ e.window.partitionBy, name ∈ t.names)
    (horderBy : ∀ key ∈ e.window.orderBy, key.column ∈ t.names) (schedule : Schedule) :
    ∃ out, e.evaluate schedule false t = .ok out ∧ out.size = t.rows ∧
      (∀ r < t.rows, out.cell r ≠ .null ∧ out.cell r =
        value (t.standing e.window.orderBy (t.group e.window.partitionBy r) r)) ∧
      (e.function = .rowNumber → ∀ r < t.rows,
        ((t.group e.window.partitionBy r).map out.cell).Perm
          ((List.range (t.group e.window.partitionBy r).length).map fun k =>
            .int (Int64.ofNat (k + 1)))) := by
  have indexed := (Table.indexed_ofSources ht).1
  have typed := Table.typed_ofSources ht
  have horderBy' : ∀ name ∈ e.window.orderBy.map SortKey.column, name ∈ t.names := by
    simpa using horderBy
  obtain ⟨splitters, hsplitters⟩ := indexed.exists_columnsOf hpartitionBy
  obtain ⟨sources, hsources⟩ := indexed.exists_columnsOf horderBy'
  have orders := typed.ordersRows hsources
  -- the rows of a group all have it as their group
  have group {r r' : Nat} (hr' : r' ∈ t.group e.window.partitionBy r) :=
    Table.group_eq hsplitters (typed.splitsRows hsplitters) hr'
  have hkind : e.outputKind t = .ok (e.function.resultKind .null) := by
    rw [outputKind_eq, hvalue.inputKind_eq]
    rfl
  obtain ⟨out, hout, hsize, cells⟩ := exists_evaluate_groups schedule ht
    (bind_eq_ok.mpr ⟨(), hwindow, hvalue.check_eq⟩) hkind hpartitionBy
    (fun r => value (t.standing e.window.orderBy (t.group e.window.partitionBy r) r))
    fun r _ => by
      obtain ⟨segment, hsegment, standings⟩ := exists_overRows_standing hsources orders
        (t.pairwise_group e.window.partitionBy r) rfl hvalue schedule
      refine ⟨segment, hsegment, fun k r' hk => ?_⟩
      rw [standings k r' hk, group (List.mem_of_getElem? hk)]
  refine ⟨out, hout, hsize, fun r hr => ⟨?_, cells r hr⟩, fun hnumber r _ => ?_⟩
  · rw [cells r hr]
    exact hvalue.ne_null _
  · rw [hnumber] at hvalue
    cases hvalue
    -- row numbers are the places in the group, which are all places below its size
    have numbers : (t.group e.window.partitionBy r).map out.cell =
        ((t.group e.window.partitionBy r).map fun r' =>
          (t.standing e.window.orderBy (t.group e.window.partitionBy r) r').place).map fun k =>
            .int (Int64.ofNat (k + 1)) := by
      rw [List.map_map]
      refine List.map_congr_left fun r' hr' => ?_
      rw [cells r' (Table.mem_group.mp hr').1, group hr']
      rfl
    rw [numbers]
    exact (Table.map_place_perm hsources orders (t.pairwise_group _ r)).map _

/-- Times of runners in two heats. -/
private def heats : List Column :=
  [⟨"heat", .text #[some "a", some "a", some "b", some "a"]⟩,
    ⟨"time", .int64 #[some 12, some 11, none, some 11]⟩]

private def heatTable : Table := ⟨heats.map .typed, [("time", 1), ("heat", 0)]⟩

/-- A function over the runners of each heat in the order of their times. -/
private def overHeats (fn : Function) : Expression :=
  ⟨fn, { partitionBy := ["heat"], orderBy := [⟨"time", true⟩] }, none⟩

/-- Two runners of the first heat tie in front of a third. The one without a time runs alone. -/
theorem evaluate_standing_heats :
    (∃ out, (overHeats (.ranking .denseRank)).evaluate .standard false heatTable = .ok out ∧
      out.cell 0 = .int 2 ∧ out.cell 1 = .int 1 ∧ out.cell 2 = .int 1 ∧ out.cell 3 = .int 1) ∧
    ∃ out, (overHeats .rowNumber).evaluate .standard false heatTable = .ok out ∧
      out.cell 0 = .int 3 ∧ out.cell 1 = .int 1 ∧ out.cell 2 = .int 1 ∧ out.cell 3 = .int 2 ∧
      [out.cell 0, out.cell 1, out.cell 3].Perm [.int 1, .int 2, .int 3] := by
  have ht : Table.ofSources (heats.map .typed) = .ok heatTable := rfl
  constructor
  · obtain ⟨out, hout, -, cells, -⟩ := evaluate_standing ht
      (e := overHeats (.ranking .denseRank)) .denseRank rfl (by decide) (by decide) .standard
    exact ⟨out, hout, (cells 0 (by decide)).2.trans (by cbv),
      (cells 1 (by decide)).2.trans (by cbv), (cells 2 (by decide)).2.trans (by cbv),
      (cells 3 (by decide)).2.trans (by cbv)⟩
  · obtain ⟨out, hout, -, cells, numbers⟩ := evaluate_standing ht
      (e := overHeats .rowNumber) .rowNumber rfl (by decide) (by decide) .standard
    have heat : heatTable.group ["heat"] 0 = [0, 1, 3] := by cbv
    have perm := numbers rfl 0 (by decide)
    rw [show (overHeats .rowNumber).window.partitionBy = ["heat"] from rfl, heat] at perm
    exact ⟨out, hout, (cells 0 (by decide)).2.trans (by cbv),
      (cells 1 (by decide)).2.trans (by cbv), (cells 2 (by decide)).2.trans (by cbv),
      (cells 3 (by decide)).2.trans (by cbv), perm⟩

end Expression

end WindowQuery
