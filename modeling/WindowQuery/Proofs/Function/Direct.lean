import WindowQuery.Proofs.Function.Totals
import WindowQuery.Proofs.View.Sorted

/-!
# Running totals against direct ones

Sums of integers and counts of cells are computed from vectors of running totals, two reads for
each frame. Here they are compared with what they stand for: the sum of the numbers in the frame
from left to right (`Numeric.sum`), and the number of positions in the frame that hold a value. The
comparison is entry by entry (`Answers`), so it also says that no read leaves the vector.

The sum of numbers of any type, doubles included, is the direct one at every position
(`Aggregate.exists_computeOver_sum`); that running sums come to the same is a property of integers.
-/

namespace WindowQuery

namespace View

variable {v : View} {s : Source} {span : Span}

/-- The **numbers** at the positions of a span, in order, none for a cell that is not numeric. -/
def numbersIn (α : Type) [Numeric α] (v : View) (s : Source) (span : Span) : Array (Option α) :=
  (span.positions.map fun q => Numeric.ofCell? (v.cellAt s q)).toArray

/-- The integers at the positions of a span, as unbounded ones. -/
def intsIn (v : View) (s : Source) (span : Span) : List Int :=
  span.positions.filterMap fun q => (v.cellAt s q).int?.map Int64.toInt

@[simp] theorem size_numbers (α : Type) [Numeric α] (v : View) (s : Source) :
    (v.numbers s : Array (Option α)).size = v.size := by
  simp [numbers, positions]

/-- The numbers along the positions, cut to a span, are those of the span. -/
theorem slice_numbers (α : Type) [Numeric α] (hstop : span.stop ≤ v.size) :
    span.slice (v.numbers s) = v.numbersIn α s span := by
  have slice := slice_map_rowAt hstop fun row => (Numeric.ofCell? (s.cell row) : Option α)
  rw [rowsIn, List.map_map] at slice
  exact Array.toList_inj.mp slice

/-- The sum of the numbers in a span is that of the integers there, reduced to their width. -/
theorem sum_numbersIn {α : Type} [Numeric α] {ofInt : Int → α} {toInt : α → Int}
    {sub : α → α → α} (h : Wraps ofInt toInt Numeric.zero Numeric.add sub)
    (hcell : ∀ c : Cell, Numeric.ofCell? c = c.int?.map fun i => ofInt i.toInt)
    (v : View) (s : Source) (span : Span) :
    Numeric.sum (v.numbersIn α s span) = ofInt (v.intsIn s span).sum := by
  have numbers : (v.numbersIn α s span).toList = (span.positions.map fun q =>
      (v.cellAt s q).int?).map (Option.map fun i => ofInt i.toInt) := by
    simp [numbersIn, hcell]
  have integers : presentSum Int64.toInt (span.positions.map fun q => (v.cellAt s q).int?) =
      (v.intsIn s span).sum := by
    rw [presentSum, List.filterMap_map, intsIn]
    rfl
  rw [Numeric.sum, ← Array.foldl_toList, numbers, ← h.ofInt_zero, h.foldl_addPresent, integers,
    Int.zero_add]

end View

/-- The cells of a typed column of integers are integers and NULL. -/
theorem Column.cell_eq_null_or_int {c : Column} (hkind : c.kind.isInteger = true) (row : Nat) :
    c.cell row = .null ∨ ∃ n, c.cell row = .int n := by
  have kept : (c.cell row).hasKind c.kind = true := c.storage.hasKind_cell row
  generalize c.cell row = cell at kept
  cases cell with
  | null => exact .inl rfl
  | int n => exact .inr ⟨n, rfl⟩
  | float | text | bool =>
    rw [Cell.hasKind, beq_iff_eq] at kept
    rw [kept] at hkind
    cases hkind

/-- **Results, frame by frame**: where an aggregate makes a value of each span, the value laid out
for a position is what it makes of the numbers in its frame. -/
theorem Aggregate.exists_computeOver_of_spans {α β : Type} [Numeric α] {a : Aggregate}
    {store : Array (Option β) → Storage} {result : Array (Option α) → β}
    (hresult : ∀ (v : View) (values : Array (Option α)) (spans : List Span),
      (∀ s ∈ spans, s.start ≤ s.stop ∧ s.stop ≤ values.size) →
        a.storageOf v values spans =
          store (v.layout (spans.map fun s => result (s.slice values))))
    (s : Source) {v : View} (hv : v.Complete) {f : Frame} {span : Nat → Span}
    (hspan : ∀ i < v.size, v.frameAt i f = .ok (span i)) :
    ∃ results : Array (Option β),
      a.computeOver α s v f = .ok ⟨a.name, store results⟩ ∧
        results.size = v.size ∧ ∀ i < v.size,
          Storage.value? results (v.slotAt i) = some (result (v.numbersIn α s (span i))) := by
  have inside : ∀ t ∈ v.positions.map span,
      t.start ≤ t.stop ∧ t.stop ≤ (v.numbers s : Array (Option α)).size := by
    intro t ht
    obtain ⟨i, hi, rfl⟩ := List.mem_map.mp ht
    rw [View.size_numbers]
    exact View.frameAt_le (hspan i (List.mem_range.mp hi))
  refine ⟨v.layout ((v.positions.map span).map fun t => result (t.slice (v.numbers s))),
    bind_eq_ok.mpr ⟨_, View.frames_eq hspan, ?_⟩, View.size_layout _ _, fun i hi => ?_⟩
  · rw [hresult v _ _ inside]
    rfl
  · rw [List.map_map]
    refine View.value?_layout hv ?_ (by simp [View.positions])
    rw [View.getElem?_map_positions hi, Function.comp_apply,
      View.slice_numbers α (View.frameAt_le (hspan i hi)).2]

/-- Where sums over spans are the direct ones, the sum laid out for a position is the direct sum
over its frame. -/
theorem Aggregate.exists_computeOver_sum {α : Type} [Numeric α]
    (hsums : ∀ (values : Array (Option α)) (spans : List Span),
      (∀ s ∈ spans, s.start ≤ s.stop ∧ s.stop ≤ values.size) →
        Numeric.spanSums values spans = spans.map fun s => Numeric.sum (s.slice values))
    (s : Source) {v : View} (hv : v.Complete) {f : Frame} {span : Nat → Span}
    (hspan : ∀ i < v.size, v.frameAt i f = .ok (span i)) :
    ∃ totals : Array (Option α),
      Aggregate.sum.computeOver α s v f = .ok ⟨"sum", Numeric.storage totals⟩ ∧
        totals.size = v.size ∧ ∀ i < v.size,
          Storage.value? totals (v.slotAt i) = some (Numeric.sum (v.numbersIn α s (span i))) :=
  exists_computeOver_of_spans (fun v values spans hspans => by
    rw [storageOf, hsums values spans hspans]) s hv hspan

/-- Sums of integers are reduced sums of the integers in each frame, and the running sums answer
every frame with them. -/
theorem Aggregate.exists_computeOver_wrapping {α : Type} [Numeric α] {ofInt : Int → α}
    {toInt : α → Int} {sub : α → α → α} (h : Wraps ofInt toInt Numeric.zero Numeric.add sub)
    (hsums : ∀ (values : Array (Option α)) (spans : List Span), Numeric.spanSums values spans =
      sumsByDifference Numeric.add sub Numeric.zero values spans)
    (hcell : ∀ c : Cell, Numeric.ofCell? c = c.int?.map fun i => ofInt i.toInt)
    (s : Source) {v : View} (hv : v.Complete) {f : Frame} {span : Nat → Span}
    (hspan : ∀ i < v.size, v.frameAt i f = .ok (span i)) :
    ∃ totals : Array (Option α),
      Aggregate.sum.computeOver α s v f = .ok ⟨"sum", Numeric.storage totals⟩ ∧
        totals.size = v.size ∧ ∀ i < v.size, ∃ total,
          Storage.value? totals (v.slotAt i) = some total ∧
          total = Numeric.sum (v.numbersIn α s (span i)) ∧
          total = ofInt (v.intsIn s (span i)).sum ∧
          Answers sub (runningSums Numeric.add Numeric.zero
            (v.numbers s : Array (Option α)).toList) (span i) total := by
  obtain ⟨totals, hcompute, hsize, hvalue⟩ := exists_computeOver_sum
    (fun values spans hspans =>
      (hsums values spans).trans (h.sumsByDifference_eq_foldl values hspans)) s hv hspan
  refine ⟨totals, hcompute, hsize, fun i hi =>
    ⟨_, hvalue i hi, rfl, View.sum_numbersIn h hcell v s (span i), ?_⟩⟩
  obtain ⟨hle, hstop⟩ := View.frameAt_le (hspan i hi)
  have answers := h.answers_runningSums (v.numbers s) hle (by rwa [View.size_numbers])
  rwa [View.slice_numbers α hstop] at answers

/-- Running counts answer every frame with the number of positions in it that hold a value. -/
theorem View.exists_countCells_directly (s : Source) {v : View} (hv : v.Complete) {f : Frame}
    {span : Nat → Span} (hspan : ∀ i < v.size, v.frameAt i f = .ok (span i)) :
    ∃ c, v.countCells s f = .ok c ∧ c.size = v.size ∧ ∀ i < v.size, ∃ count,
      c.cell (v.slotAt i) = .int (Int64.ofNat count) ∧
      count = (span i).positions.countP (fun q => !(v.cellAt s q).isNull) ∧
      Answers (· - ·) (countsFrom 0 (v.positions.map fun q => s.isNull (v.rowAt q)))
        (span i) count := by
  obtain ⟨c, hcompute, cells⟩ := exists_countCells hv hspan s
  have hsize : c.size = v.size := by
    obtain ⟨spans, -, hc⟩ := bind_eq_ok.mp hcompute
    cases hc
    exact size_layout _ _
  refine ⟨c, hcompute, hsize, fun i hi => ⟨_, cells i hi, ?_, ?_⟩⟩
  · rw [rowsIn, List.countP_map]
    rfl
  · obtain ⟨hle, hstop⟩ := frameAt_le (hspan i hi)
    have answers := answers_countsFrom (v.positions.map fun q => s.isNull (v.rowAt q)).toArray hle
      (by simpa [positions] using hstop)
    rw [slice_map_rowAt hstop fun row => s.isNull row, List.countP_map] at answers
    simpa only [Function.comp_def, Source.isNull_eq] using answers

/-- **Running totals agree with direct ones**, in the view of any sort and for any frame that
resolves at every position. Every slot belongs to one position. The sum of a column of integers is
the sum of the numbers in the frame from left to right, which is that of the unbounded integers
reduced to the width of the column, and the count is the number of positions in the frame that hold
a value. Both are answered by a vector of running totals. -/
theorem Partition.compute_directly {p : Partition} {sortKeys : List SortKey} {threshold : Nat}
    {v : View} (hsort : p.sort sortKeys threshold = .ok v) {f : Frame} {span : Nat → Span}
    (hspan : ∀ i < v.size, v.frameAt i f = .ok (span i)) {name : String} {s : Source}
    (hs : p.table.column name = .ok s) :
    (∀ slot < p.size, ∃! i, i < v.size ∧ v.slotAt i = slot) ∧
    (∀ column, s = .typed column → s.kind.isInteger = true →
      ∀ i, v.cellAt s i = .null ∨ ∃ n, v.cellAt s i = .int n) ∧
    (s.kind = .int32 → ∃ c, (Function.aggregate .sum name).compute v f = .ok c ∧
      c.size = p.size ∧ ∀ i < v.size, ∃ total : Int32, c.cell (v.slotAt i) = .int total.toInt64 ∧
        total = Numeric.sum (v.numbersIn Int32 s (span i)) ∧
        total.toInt = (v.intsIn s (span i)).sum.bmod (2 ^ 32) ∧
        Answers (· - ·) (runningSums (· + ·) 0 (v.numbers s : Array (Option Int32)).toList)
          (span i) total) ∧
    (s.kind = .int64 → ∃ c, (Function.aggregate .sum name).compute v f = .ok c ∧
      c.size = p.size ∧ ∀ i < v.size, ∃ total : Int64, c.cell (v.slotAt i) = .int total ∧
        total = Numeric.sum (v.numbersIn Int64 s (span i)) ∧
        total.toInt = (v.intsIn s (span i)).sum.bmod (2 ^ 64) ∧
        Answers (· - ·) (runningSums (· + ·) 0 (v.numbers s : Array (Option Int64)).toList)
          (span i) total) ∧
    ∃ c, (Function.count name).compute v f = .ok c ∧ c.size = p.size ∧
      ∀ i < v.size, ∃ count : Nat, c.cell (v.slotAt i) = .int (Int64.ofNat count) ∧
        count = (span i).positions.countP (fun q => !(v.cellAt s q).isNull) ∧
        Answers (· - ·) (countsFrom 0 (v.positions.map fun q => s.isNull (v.rowAt q)))
          (span i) count := by
  have hv := complete_of_sort hsort
  obtain ⟨rfl, -, -⟩ := sort_eq_ok hsort
  have size : v.size = v.partition.size := hv.size_eq
  refine ⟨fun slot hslot => ?_, ?_, fun hkind => ?_, fun hkind => ?_, ?_⟩
  · obtain ⟨i, hi, rfl⟩ := hv.exists_slotAt_eq hslot
    exact ⟨i, ⟨hi, rfl⟩, fun j hj => hv.slotAt_inj hj.1 hi hj.2⟩
  · rintro column rfl hkind i
    exact Column.cell_eq_null_or_int hkind _
  · obtain ⟨totals, hcompute, hsize, htotals⟩ := Aggregate.exists_computeOver_wrapping wraps_int32
      (fun _ _ => rfl) (fun _ => rfl) s hv hspan
    refine ⟨⟨"sum", Numeric.storage totals⟩, bind_eq_ok.mpr ⟨s, hs, ?_⟩, hsize.trans size,
      fun i hi => ?_⟩
    · rw [hkind]
      exact hcompute
    · obtain ⟨total, hvalue, hsum, hreduced, hanswers⟩ := htotals i hi
      refine ⟨total, ?_, hsum, ?_, hanswers⟩
      · exact congrArg (Cell.ofOption fun n : Int32 => .int n.toInt64) hvalue
      · exact (congrArg Int32.toInt hreduced).trans Int32.toInt_ofInt
  · obtain ⟨totals, hcompute, hsize, htotals⟩ := Aggregate.exists_computeOver_wrapping wraps_int64
      (fun _ _ => rfl) (fun _ => by simp [Numeric.ofCell?]) s hv hspan
    refine ⟨⟨"sum", Numeric.storage totals⟩, bind_eq_ok.mpr ⟨s, hs, ?_⟩, hsize.trans size,
      fun i hi => ?_⟩
    · rw [hkind]
      exact hcompute
    · obtain ⟨total, hvalue, hsum, hreduced, hanswers⟩ := htotals i hi
      refine ⟨total, ?_, hsum, ?_, hanswers⟩
      · exact congrArg (Cell.ofOption .int) hvalue
      · exact (congrArg Int64.toInt hreduced).trans Int64.toInt_ofInt
  · obtain ⟨c, hcompute, hsize, hcounts⟩ := View.exists_countCells_directly s hv hspan
    exact ⟨c, bind_eq_ok.mpr ⟨s, hs, hcompute⟩, hsize.trans size, hcounts⟩

/-- Loads by the hour, one of them missing and two as great as 32 bits allow. -/
private def loads : Column := ⟨"load", .int32 #[some 5, some 2147483647, none, some 2147483647]⟩

/-- The hours of the loads, two of which are the same. -/
private def loadHours : Column := ⟨"hour", .int64 #[some 3, some 1, some 2, some 1]⟩

private def loadsPartition : Partition :=
  ⟨⟨[.typed loadHours, .typed loads], [("load", 1), ("hour", 0)]⟩, #[0, 1, 2, 3]⟩

/-- The loads by the hour, those of one hour in order of arrival. -/
private def loadsView : View := loadsPartition.viewBy [⟨"hour", true⟩] [.typed loadHours] 2

/-- The loads of the hour and of all earlier ones. -/
private def loadsFrame : Frame := ⟨.groups, .unboundedPreceding, .currentRow⟩

/-- The frames that this resolves to. -/
private def loadsSpan (i : Nat) : Span := ⟨0, #[2, 2, 3, 4][i]?.getD 0⟩

private theorem loadsView_slots :
    loadsView.size = 4 ∧ loadsView.slotAt 0 = 1 ∧ loadsView.slotAt 2 = 2 ∧
      loadsView.slotAt 3 = 0 := by
  cbv

/-- The running totals wrap at the second load of the day. -/
theorem Partition.compute_directly_loads :
    loadsPartition.sort [⟨"hour", true⟩] 2 = .ok loadsView ∧
      (∀ i < loadsView.size, loadsView.frameAt i loadsFrame = .ok (loadsSpan i)) ∧
      (∃ c, (Function.aggregate .sum "load").compute loadsView loadsFrame = .ok c ∧ c.size = 4 ∧
        c.cell 0 = .int 3 ∧ c.cell 1 = .int (-2)) ∧
      ∃ c, (Function.count "load").compute loadsView loadsFrame = .ok c ∧ c.size = 4 ∧
        c.cell 0 = .int 3 ∧ c.cell 2 = .int 2 := by
  have hsort : loadsPartition.sort [⟨"hour", true⟩] 2 = .ok loadsView := rfl
  obtain ⟨hsize, slot0, slot2, slot3⟩ := loadsView_slots
  have hspan : ∀ i < loadsView.size, loadsView.frameAt i loadsFrame = .ok (loadsSpan i) := by
    intro i hi
    rw [hsize] at hi
    match i, hi with
    | 0, _ | 1, _ | 2, _ | 3, _ => cbv
  have hloads : loadsPartition.table.column "load" = .ok (.typed loads) := rfl
  obtain ⟨-, -, sum32, -, d, hd, hdsize, counts⟩ := compute_directly hsort hspan hloads
  obtain ⟨c, hc, hcsize, sums⟩ := sum32 rfl
  rw [hsize] at sums counts
  refine ⟨hsort, hspan, ⟨c, hc, hcsize, ?_, ?_⟩, d, hd, hdsize, ?_, ?_⟩
  · obtain ⟨total, hcell, hsum, -⟩ := sums 3 (by decide)
    rw [slot3, hsum] at hcell
    exact hcell.trans (by cbv)
  · obtain ⟨total, hcell, hsum, -⟩ := sums 0 (by decide)
    rw [slot0, hsum] at hcell
    exact hcell.trans (by cbv)
  · obtain ⟨count, hcell, hcount, -⟩ := counts 3 (by decide)
    rw [slot3, hcount] at hcell
    exact hcell.trans (by cbv)
  · obtain ⟨count, hcell, hcount, -⟩ := counts 2 (by decide)
    rw [slot2, hcount] at hcell
    exact hcell.trans (by cbv)

end WindowQuery
