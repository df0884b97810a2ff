import WindowQuery.Proofs.Function.Direct
import WindowQuery.Proofs.Number.Bits

/-!
# The least and the greatest cell of a frame

`MIN` and `MAX` leave a cell of the frame that comes before, or behind, all others that hold a
value, and zero where none does (`View.Extreme`). Level cells need not be the same, as the two zeros
of doubles are not, so it matters that `MIN` finds the first of them and `MAX` the last: in the
order that also looks at positions (`Ahead`) there is one extreme (`View.Extreme.unique`).

The three types of numbers are treated alike. What is asked of them is that a column stores each as
a cell of its own that compares as the number does (`AsCells`).
-/

namespace WindowQuery

/-! ### Extremes of cells -/

/-- The zero of a numeric kind. -/
def Kind.zero : Kind → Cell
  | .float64 => .float 0
  | _ => .int 0

/-- The **extreme** of the cells of a column in a span, in an order of cells at positions: the cell
of a position that comes before all others that hold a value, and zero where none does. -/
inductive View.Extreme (v : View) (c : Column) (span : Span)
    (R : Cell × Nat → Cell × Nat → Prop) : Cell → Prop where
  | zero (nulls : ∀ q ∈ span, v.cellAt (.typed c) q = .null) : Extreme v c span R c.kind.zero
  | cell {q : Nat} (mem : q ∈ span) (present : v.cellAt (.typed c) q ≠ .null)
      (first : ∀ q' ∈ span, v.cellAt (.typed c) q' ≠ .null →
        R (v.cellAt (.typed c) q, q) (v.cellAt (.typed c) q', q')) :
    Extreme v c span R (v.cellAt (.typed c) q)

/-- **There is one extreme** in an order that levels no two positions. -/
theorem View.Extreme.unique {v : View} {c : Column} {span : Span}
    {R : Cell × Nat → Cell × Nat → Prop} (hR : ∀ {x y}, R x y → R y x → x.2 = y.2) {x y : Cell}
    (hx : v.Extreme c span R x) (hy : v.Extreme c span R y) : x = y := by
  cases hx with
  | zero nulls =>
    cases hy with
    | zero => rfl
    | cell mem present => exact absurd (nulls _ mem) present
  | cell mem present first =>
    cases hy with
    | zero nulls => exact absurd (nulls _ mem) present
    | cell mem' present' first' =>
      exact congrArg _ (hR (first _ mem' present') (first' _ mem present))

/-! ### Numbers as cells -/

/-- Numbers that columns store **as cells** of their own. -/
structure AsCells {α : Type} [Numeric α] (toCell : α → Cell) : Prop where
  ofCell?_null : (Numeric.ofCell? .null : Option α) = none
  ofCell?_toCell : ∀ a, Numeric.ofCell? (toCell a) = some a
  order_toCell : ∀ a b, Cell.order (toCell a) (toCell b) = Numeric.order a b
  cell_storage : ∀ values row,
    (Numeric.storage values).cell row = Cell.ofOption toCell (Storage.value? values row)

theorem asCells_int32 : AsCells fun i : Int32 => .int i.toInt64 where
  ofCell?_null := rfl
  ofCell?_toCell a := by simp [Numeric.ofCell?, Cell.int?]
  order_toCell a b := by simp [Cell.order, Numeric.order]
  cell_storage _ _ := rfl

theorem asCells_int64 : AsCells Cell.int where
  ofCell?_null := rfl
  ofCell?_toCell _ := rfl
  order_toCell _ _ := rfl
  cell_storage _ _ := rfl

theorem asCells_float : AsCells Cell.float where
  ofCell?_null := rfl
  ofCell?_toCell _ := rfl
  order_toCell _ _ := rfl
  cell_storage _ _ := rfl

/-- What an operation **picks** of the numbers present, zero without any. -/
def Numeric.pick {α : Type} [Numeric α] (f : α → α → α) (values : Array (Option α)) : α :=
  (combine f values.toList).getD zero

section

variable {α : Type} [Numeric α] (v : View) (values : Array (Option α)) (spans : List Span)

theorem Aggregate.storageOf_min : Aggregate.min.storageOf v values spans = Numeric.storage
    (v.layout (spans.map fun s => Numeric.pick (lesser Numeric.order) (s.slice values))) := by
  rw [storageOf, Numeric.spanLeasts_eq_map]
  rfl

theorem Aggregate.storageOf_max : Aggregate.max.storageOf v values spans = Numeric.storage
    (v.layout (spans.map fun s => Numeric.pick (greater Numeric.order) (s.slice values))) := by
  rw [storageOf, Numeric.spanGreatests_eq_map]
  rfl

end

section

variable {α : Type} [Numeric α] {toCell : α → Cell} (h : AsCells toCell)
include h

theorem AsCells.ne_null (a : α) : toCell a ≠ .null := by
  intro hnull
  have read := h.ofCell?_toCell a
  rw [hnull, h.ofCell?_null] at read
  cases read

/-- The number that is read from a cell is the one that the cell is of. -/
theorem AsCells.ofCell?_eq_some_iff {cell : Cell} (hcell : cell.Has toCell) {a : α} :
    Numeric.ofCell? cell = some a ↔ cell = toCell a := by
  refine ⟨fun ha => ?_, fun ha => ha ▸ h.ofCell?_toCell a⟩
  obtain rfl | ⟨b, rfl⟩ := hcell
  · cases h.ofCell?_null.symm.trans ha
  · exact congrArg toCell (Option.some.inj ((h.ofCell?_toCell b).symm.trans ha))

variable {c : Column} (hcells : ∀ row, (c.cell row).Has toCell)
  (hzero : c.kind.zero = toCell Numeric.zero) {f : α → α → α} {R : α × Nat → α × Nat → Prop}
  (hf : PicksPlaced f R) {S : Cell × Nat → Cell × Nat → Prop}
  (hS : ∀ {a b i j}, R (a, i) (b, j) → S (toCell a, i) (toCell b, j))
include hcells hzero hf hS

/-- Picking among the numbers in a span finds the extreme of the cells there. -/
theorem AsCells.extreme_pick (v : View) (span : Span) :
    v.Extreme c span S (toCell (Numeric.pick f (v.numbersIn α (.typed c) span))) := by
  have number {q : Nat} {a : α} : Numeric.ofCell? (v.cellAt (.typed c) q) = some a ↔
      v.cellAt (.typed c) q = toCell a := h.ofCell?_eq_some_iff (hcells (v.rowAt q))
  rw [Numeric.pick, View.numbersIn]
  cases hc : combine f (span.positions.map fun q => Numeric.ofCell? (v.cellAt (.typed c) q)) with
  | none =>
    rw [Option.getD_none, ← hzero]
    refine .zero fun q hq => ?_
    rcases hcells (v.rowAt q) with hnull | ⟨a, ha⟩
    · exact hnull
    · refine absurd ?_ (combine_eq_none_iff.mp hc a)
      exact List.mem_map.mpr ⟨q, Span.mem_positions.mpr hq, number.mpr ha⟩
  | some a =>
    obtain ⟨q, hq, hqa, first⟩ := hf.combine_map_eq_some List.pairwise_lt_range' hc
    have picked := number.mp hqa
    rw [Option.getD_some, ← picked]
    refine .cell (Span.mem_positions.mp hq) (picked ▸ h.ne_null a) fun q' hq' present => ?_
    rcases hcells (v.rowAt q') with hnull | ⟨b, hb⟩
    · exact absurd hnull present
    · have hb : v.cellAt (.typed c) q' = toCell b := hb
      rw [picked, hb]
      exact hS (first q' (Span.mem_positions.mpr hq') b (number.mpr hb))

/-- An aggregate that picks among the numbers of each span leaves the extremes. -/
theorem AsCells.exists_extremes {a : Aggregate}
    (ha : ∀ (v : View) (values : Array (Option α)) (spans : List Span),
      a.storageOf v values spans =
        Numeric.storage (v.layout (spans.map fun s => Numeric.pick f (s.slice values))))
    {v : View} (hv : v.Complete) {frame : Frame} {span : Nat → Span}
    (hspan : ∀ i < v.size, v.frameAt i frame = .ok (span i)) :
    ∃ out, a.computeOver α (.typed c) v frame = .ok out ∧
      ∀ i < v.size, v.Extreme c (span i) S (out.cell (v.slotAt i)) := by
  obtain ⟨results, hcompute, -, hresults⟩ := Aggregate.exists_computeOver_of_spans
    (fun v values spans _ => ha v values spans) (.typed c) hv hspan
  refine ⟨_, hcompute, fun i hi => ?_⟩
  rw [Column.cell, h.cell_storage, hresults i hi, Cell.ofOption_some]
  exact h.extreme_pick hcells hzero hf hS v (span i)

end

theorem Cell.has_ofOption {α : Type} (f : α → Cell) (o : Option α) : (ofOption f o).Has f := by
  cases o with
  | none => exact .inl rfl
  | some a => exact .inr ⟨a, rfl⟩

/-- A typed numeric column is aggregated with the numbers that it stores. -/
theorem Column.exists_asCells {c : Column} (hkind : c.kind.isNumeric = true) :
    ∃ (α : Type) (_ : Numeric α) (toCell : α → Cell), AsCells toCell ∧
      (∀ row, (c.cell row).Has toCell) ∧ c.kind.zero = toCell Numeric.zero ∧
      ∀ (a : Aggregate) {name : String} {v : View} (f : Frame),
        v.partition.table.column name = .ok (.typed c) →
          a.compute name v f = a.computeOver α (.typed c) v f := by
  obtain ⟨columnName, storage⟩ := c
  cases storage with
  | int32 values =>
    refine ⟨Int32, inferInstance, _, asCells_int32, fun row => Cell.has_ofOption _ _, rfl, ?_⟩
    intro a name v f hc
    rw [Aggregate.compute, hc]
    rfl
  | int64 values =>
    refine ⟨Int64, inferInstance, _, asCells_int64, fun row => Cell.has_ofOption _ _, rfl, ?_⟩
    intro a name v f hc
    rw [Aggregate.compute, hc]
    rfl
  | float64 values =>
    refine ⟨Float, inferInstance, _, asCells_float, fun row => Cell.has_ofOption _ _, rfl, ?_⟩
    intro a name v f hc
    rw [Aggregate.compute, hc]
    rfl
  | text values | boolean values => cases hkind

/-! ### NaN among the extremes -/

namespace Binary64

/-- Only NaN does not come before NaN. -/
theorem isNaN_of_order_ne_gt {x y : Float} (hx : isNaN x = true) (h : order x y ≠ .gt) :
    isNaN y = true := by
  rw [isNaN_iff_rank] at hx ⊢
  rw [order, hx, Ne, Std.compare_eq_gt, UInt64.not_lt, UInt64.le_iff_toNat_le] at h
  have top : (rank y).toNat ≤ 0xffffffffffffffff := Nat.le_of_lt_succ (rank y).toNat_lt
  exact UInt64.toNat_inj.mp (Nat.le_antisymm top h)

end Binary64

/-- The cell is a double that is no number. -/
def Cell.isNaN : Cell → Bool
  | .float x => Binary64.isNaN x
  | _ => false

/-- In a column of doubles only NaN does not come before NaN. -/
theorem Column.isNaN_of_order_ne_gt {c : Column} {row row' : Nat}
    (hrow : (c.cell row).isNaN = true) (h : Cell.order (c.cell row) (c.cell row') ≠ .gt) :
    (c.cell row').isNaN = true := by
  have kind : (c.cell row).hasKind c.kind = true := c.storage.hasKind_cell row
  have kind' : (c.cell row').hasKind c.kind = true := c.storage.hasKind_cell row'
  cases hcell : c.cell row with
  | null | int n | text s | bool b =>
    rw [hcell] at hrow
    cases hrow
  | float x =>
    rw [hcell] at hrow kind h
    rw [eq_of_beq kind] at kind'
    cases hcell' : c.cell row' with
    | null =>
      rw [hcell'] at h
      exact absurd rfl h
    | float y =>
      rw [hcell'] at h
      exact Binary64.isNaN_of_order_ne_gt hrow h
    | int n | text s | bool b =>
      rw [hcell'] at kind'
      cases kind'

namespace View.Extreme

variable {v : View} {c : Column} {span : Span} {x : Cell}

/-- The least cell is NaN only if every one is that holds a value. -/
theorem isNaN_of_least (h : v.Extreme c span (Ahead Cell.order) x) (hx : x.isNaN = true) {q : Nat}
    (hq : q ∈ span) (present : v.cellAt (.typed c) q ≠ .null) :
    (v.cellAt (.typed c) q).isNaN = true := by
  cases h with
  | zero nulls => exact absurd (nulls q hq) present
  | cell _ _ first => exact Column.isNaN_of_order_ne_gt hx (first q hq present).ne_gt

/-- The greatest cell is NaN as soon as one is. -/
theorem isNaN_of_greatest (h : v.Extreme c span (fun x y => Ahead Cell.order y x) x) {q : Nat}
    (hq : q ∈ span) (hNaN : (v.cellAt (.typed c) q).isNaN = true) : x.isNaN = true := by
  have present : v.cellAt (.typed c) q ≠ .null := by
    intro hnull
    rw [hnull] at hNaN
    cases hNaN
  cases h with
  | zero nulls => exact absurd (nulls q hq) present
  | cell _ _ last => exact Column.isNaN_of_order_ne_gt hNaN (last q hq present).ne_gt

end View.Extreme

/-- **The least and the greatest.** Comparison is a total preorder on the cells of a typed column. In
the view of any sort, and for any frame that resolves at every position, `MIN` of a column of numbers
leaves the first of the least cells of the frame, and `MAX` the last of the greatest. NaN is greater
than all numbers: `MIN` leaves it only where the frame holds nothing else, and `MAX` as soon as it
holds one. -/
theorem Partition.sort_extremes {p : Partition} {sortKeys : List SortKey} {threshold : Nat}
    {v : View} (hsort : p.sort sortKeys threshold = .ok v) {f : Frame} {span : Nat → Span}
    (hspan : ∀ i < v.size, v.frameAt i f = .ok (span i)) {name : String} {c : Column}
    (hc : p.table.column name = .ok (.typed c)) (hkind : c.kind.isNumeric = true) :
    (Source.typed c).OrdersRows ∧
    ∃ least greatest, (Function.aggregate .min name).compute v f = .ok least ∧
      (Function.aggregate .max name).compute v f = .ok greatest ∧
      least.kind = c.kind ∧ greatest.kind = c.kind ∧ least.size = p.size ∧
      greatest.size = p.size ∧ (∀ slot < p.size, ∃ i < v.size, v.slotAt i = slot) ∧
      ∀ i < v.size,
        v.Extreme c (span i) (Ahead Cell.order) (least.cell (v.slotAt i)) ∧
        v.Extreme c (span i) (fun x y => Ahead Cell.order y x) (greatest.cell (v.slotAt i)) ∧
        ((least.cell (v.slotAt i)).isNaN = true → ∀ q ∈ span i,
          v.cellAt (.typed c) q ≠ .null → (v.cellAt (.typed c) q).isNaN = true) ∧
        ∀ q ∈ span i, (v.cellAt (.typed c) q).isNaN = true →
          (greatest.cell (v.slotAt i)).isNaN = true := by
  have hv := complete_of_sort hsort
  obtain ⟨rfl, -, -⟩ := sort_eq_ok hsort
  obtain ⟨α, _, toCell, h, hcells, hzero, hcompute⟩ := Column.exists_asCells hkind
  have := @Numeric.transCmp_order α _
  have ahead {a b : α} {i j : Nat} (hab : Ahead Numeric.order (a, i) (b, j)) :
      Ahead Cell.order (toCell a, i) (toCell b, j) := by
    simpa only [Ahead, h.order_toCell] using hab
  have lesser : PicksPlaced (lesser Numeric.order) (Ahead (Numeric.order : α → α → Ordering)) :=
    picksPlaced_lesser
  have greater : PicksPlaced (greater Numeric.order)
      fun x y => Ahead (Numeric.order : α → α → Ordering) y x := picksPlaced_greater
  obtain ⟨least, hleast, leasts⟩ :=
    h.exists_extremes hcells hzero lesser ahead Aggregate.storageOf_min hv hspan
  obtain ⟨greatest, hgreatest, greatests⟩ : ∃ greatest,
      Aggregate.max.computeOver α (.typed c) v f = .ok greatest ∧ ∀ i < v.size,
        v.Extreme c (span i) (fun x y => Ahead Cell.order y x) (greatest.cell (v.slotAt i)) :=
    h.exists_extremes hcells hzero greater ahead Aggregate.storageOf_max hv hspan
  rw [← hcompute _ _ hc] at hleast hgreatest
  have segment {a : Aggregate} {out : Column} (hout : a.compute name v f = .ok out)
      (hresult : a.resultKind c.kind = c.kind) :
      out.kind = c.kind ∧ out.size = v.partition.size := by
    obtain ⟨_, hinput, segment⟩ := Aggregate.isSegment_compute hout
    cases hc.symm.trans hinput
    rw [segment.kind_eq, segment.size_eq, hv.size_eq]
    exact ⟨(congrArg Kind.stored hresult).trans c.stored_kind, rfl⟩
  obtain ⟨kind, size⟩ := segment hleast rfl
  obtain ⟨kind', size'⟩ := segment hgreatest rfl
  exact ⟨Source.ordersRows_typed c, least, greatest, hleast, hgreatest, kind, kind', size, size',
    fun slot hslot => hv.exists_slotAt_eq hslot, fun i hi => ⟨leasts i hi, greatests i hi,
      fun hx q hq present => (leasts i hi).isNaN_of_least hx hq present,
      fun q hq hNaN => (greatests i hi).isNaN_of_greatest hq hNaN⟩⟩

/-- Temperatures by the hour, the first of which is missing. -/
private def temperatures : Column := ⟨"degrees", .int32 #[some 4, some (-3), none]⟩

/-- The hours at which they were taken. -/
private def temperatureHours : Column := ⟨"hour", .int64 #[some 2, some 3, some 1]⟩

private def night : Partition :=
  ⟨⟨[.typed temperatures, .typed temperatureHours], [("degrees", 0), ("hour", 1)]⟩, #[0, 1, 2]⟩

/-- The temperatures from the first hour to the last. -/
private def nightView : View := night.viewBy [⟨"hour", true⟩] [.typed temperatureHours] 6

private theorem nightView_slots :
    nightView.size = 3 ∧ nightView.slotAt 0 = 2 ∧ nightView.slotAt 2 = 1 := by
  cbv

private theorem nightView_cells : nightView.cellAt (.typed temperatures) 0 = .null ∧
    nightView.cellAt (.typed temperatures) 1 = .int 4 ∧
    nightView.cellAt (.typed temperatures) 2 = .int (-3) :=
  ⟨by cbv, by cbv, by cbv⟩

/-- The missing temperature is not the least one up to then: without any other that is zero. -/
theorem Partition.sort_extremes_night :
    night.sort [⟨"hour", true⟩] 6 = .ok nightView ∧
      (∀ i < nightView.size, nightView.frameAt i .running = .ok ⟨0, i + 1⟩) ∧
      ∃ least greatest,
        (Function.aggregate .min "degrees").compute nightView .running = .ok least ∧
        (Function.aggregate .max "degrees").compute nightView .running = .ok greatest ∧
        least.cell 2 = .int 0 ∧ least.cell 1 = .int (-3) ∧ greatest.cell 1 = .int 4 := by
  have hsort : night.sort [⟨"hour", true⟩] 6 = .ok nightView := rfl
  have hspan : ∀ i < nightView.size, nightView.frameAt i .running = .ok ⟨0, i + 1⟩ :=
    fun _ hi => View.frameAt_running hi
  have hdegrees : night.table.column "degrees" = .ok (.typed temperatures) := rfl
  obtain ⟨hsize, slot0, slot2⟩ := nightView_slots
  obtain ⟨cell0, cell1, cell2⟩ := nightView_cells
  obtain ⟨-, least, greatest, hleast, hgreatest, -, -, -, -, -, extremes⟩ :=
    sort_extremes hsort hspan hdegrees rfl
  rw [hsize] at extremes
  have first := (extremes 0 (by decide)).1
  have low := (extremes 2 (by decide)).1
  have high := (extremes 2 (by decide)).2.1
  rw [slot0] at first
  rw [slot2] at low high
  refine ⟨hsort, hspan, least, greatest, hleast, hgreatest, ?_, ?_, ?_⟩
  · refine first.unique (Ahead.place_eq Cell.order_swap) (.zero fun q hq => ?_)
    rwa [Nat.lt_one_iff.mp hq.2]
  · refine (low.unique (Ahead.place_eq Cell.order_swap)
      (.cell (q := 2) (by decide) (by rw [cell2]; decide) fun q hq present => ?_)).trans cell2
    match q, hq with
    | 0, _ => exact absurd cell0 present
    | 1, _ => rw [cell1, cell2]; decide
    | 2, _ => rw [cell2]; decide
  · refine (high.unique (fun h h' => Ahead.place_eq Cell.order_swap h' h)
      (.cell (q := 1) (by decide) (by rw [cell1]; decide) fun q hq present => ?_)).trans cell1
    match q, hq with
    | 0, _ => exact absurd cell0 present
    | 1, _ => rw [cell1]; decide
    | 2, _ => rw [cell1, cell2]; decide

end WindowQuery
