import WindowQuery.Proofs.Frame.Clamp
import WindowQuery.Proofs.Function.Extreme
import WindowQuery.Proofs.Function.Prefix
import WindowQuery.Proofs.Function.Segment
import WindowQuery.Proofs.Table.Restrict

/-!
# Aggregates of rows

Counts, and sums and extremes of integers, are totals of rows (`Function.Totals`): what they
give for a frame is a function of the rows in it, said without running sums and range trees, and
the order of the rows does not matter (`Function.Totals.perm`). Over a complete view they
can be computed whenever the frames of all positions can be resolved, and the value at the slot of
a position is the total of the rows in its frame (`Function.Totals.exists_compute`).

A column need not be typed to be totalled. The cells of a loose one are reduced to the width of its
declared kind before they are (`Function.Tallies`), and typed ones have this width already.
-/

namespace WindowQuery

/-! ### Totals -/

/-- How wide the integers of a kind are. -/
def Kind.bits? : Kind → Option Nat
  | int32 => some 32
  | int64 => some 64
  | _ => none

/-- The integers in some rows of a column. -/
def Column.ints (c : Column) (rows : List Nat) : List Int :=
  rows.filterMap fun row => (c.cell row).int?.map Int64.toInt

/-- What an aggregate makes of integers of some width. Sums are reduced to this width, and the
extremes of no integers are zero. -/
inductive Aggregate.OfInts (bits : Nat) : Aggregate → (List Int → Int) → Prop where
  | sum : OfInts bits .sum fun ints => ints.sum.bmod (2 ^ bits)
  | min : OfInts bits .min fun ints => ints.min?.getD 0
  | max : OfInts bits .max fun ints => ints.max?.getD 0

/-- What a function makes of the rows in a frame, for functions that count rows or **total**
integers. -/
inductive Function.Totals (t : Table) : Function → (List Nat → Int64) → Prop where
  | countRows : Totals t .countRows fun rows => Int64.ofNat rows.length
  | count {name : String} {s : Source} (hs : t.column name = .ok s) :
    Totals t (.count name) fun rows => Int64.ofNat (rows.countP fun row => !(s.cell row).isNull)
  | aggregate {a : Aggregate} {name : String} {c : Column} {bits : Nat} {ofInts : List Int → Int}
      (hc : t.column name = .ok (.typed c)) (hbits : c.kind.bits? = some bits)
      (ha : a.OfInts bits ofInts) :
    Totals t (.aggregate a name) fun rows => Int64.ofInt (ofInts (c.ints rows))

/-- The integers in some rows of a source, **reduced** to a width. -/
def Source.ints (s : Source) (bits : Nat) (rows : List Nat) : List Int :=
  rows.filterMap fun row => (s.cell row).int?.map fun i => i.toInt.bmod (2 ^ bits)

/-- What a function makes of the rows in a frame, for functions that count rows or total the
integers of any source that is declared to hold some. -/
inductive Function.Tallies (t : Table) : Function → (List Nat → Int64) → Prop where
  | countRows : Tallies t .countRows fun rows => Int64.ofNat rows.length
  | count {name : String} {s : Source} (hs : t.column name = .ok s) :
    Tallies t (.count name) fun rows => Int64.ofNat (rows.countP fun row => !(s.cell row).isNull)
  | aggregate {a : Aggregate} {name : String} {s : Source} {bits : Nat} {ofInts : List Int → Int}
      (hs : t.column name = .ok s) (hbits : s.kind.bits? = some bits)
      (ha : a.OfInts bits ofInts) :
    Tallies t (.aggregate a name) fun rows => Int64.ofInt (ofInts (s.ints bits rows))

/-- The integers of a typed column have the width of its kind. -/
theorem Column.ints_typed {c : Column} {bits : Nat} (h : c.kind.bits? = some bits) :
    (Source.typed c).ints bits = c.ints := by
  funext rows
  refine List.filterMap_congr ?_
  intro row _
  obtain ⟨name, storage⟩ := c
  cases storage with
  | int32 values =>
    cases h
    simp only [Source.cell, cell, Storage.cell]
    cases Storage.value? values row with
    | none => rfl
    | some i => simp [Cell.int?]
  | int64 values =>
    cases h
    simp only [Source.cell, cell, Storage.cell]
    cases Storage.value? values row with
    | none => rfl
    | some i => simp [Cell.int?]
  | float64 values | text values | boolean values => cases h

/-- Totals of typed columns are tallies. -/
theorem Function.Totals.tallies {t : Table} {fn : Function} {value : List Nat → Int64}
    (h : fn.Totals t value) : fn.Tallies t value := by
  cases h with
  | countRows => exact .countRows
  | count hs => exact .count hs
  | aggregate hc hbits ha =>
    rw [← Column.ints_typed hbits]
    exact .aggregate hc hbits ha

theorem Aggregate.OfInts.perm {bits : Nat} {a : Aggregate} {ofInts : List Int → Int}
    (h : a.OfInts bits ofInts) {xs ys : List Int} (hxs : xs.Perm ys) : ofInts xs = ofInts ys := by
  cases h with
  | sum => dsimp only; rw [hxs.sum_eq]
  | min => dsimp only; rw [isExtreme_min?.eq_of_perm hxs]
  | max => dsimp only; rw [isExtreme_max?.eq_of_perm hxs]

/-- **Tallies do not depend on the order of rows.** -/
theorem Function.Tallies.perm {t : Table} {fn : Function} {value : List Nat → Int64}
    (h : fn.Tallies t value) {rows rows' : List Nat} (hrows : rows.Perm rows') :
    value rows = value rows' := by
  cases h with
  | countRows => exact congrArg Int64.ofNat hrows.length_eq
  | count hs => exact congrArg Int64.ofNat (hrows.countP_eq _)
  | aggregate hs hbits ha => exact congrArg Int64.ofInt (ha.perm (hrows.filterMap _))

/-- Totals do not depend on the order of rows. -/
theorem Function.Totals.perm {t : Table} {fn : Function} {value : List Nat → Int64}
    (h : fn.Totals t value) {rows rows' : List Nat} (hrows : rows.Perm rows') :
    value rows = value rows' := h.tallies.perm hrows

/-! ### Rows in frames -/

namespace View

/-- The rows at the positions of a span, in logical order. -/
def rowsIn (v : View) (s : Span) : List Nat := s.positions.map v.rowAt

/-- What is read along the positions of a view, cut to a span, is read along the span. -/
theorem slice_map_rowAt {α : Type} {v : View} {s : Span} (hstop : s.stop ≤ v.size) (g : Nat → α) :
    (s.slice (v.positions.map fun p => g (v.rowAt p)).toArray).toList = (v.rowsIn s).map g := by
  have positions : ((v.positions.take s.stop).drop s.start) = s.positions := by
    rw [positions, List.take_range, Nat.min_eq_left hstop, List.range_eq_range', List.drop_range']
    simp [Span.positions, Span.size]
  rw [rowsIn, List.map_map, ← positions, Span.slice, List.map_drop, List.map_take]
  simp [List.drop_take, List.extract_eq_take_drop, Function.comp_def]

/-- The frames of all positions, each resolved. -/
theorem frames_eq {v : View} {f : Frame} {span : Nat → Span}
    (h : ∀ p < v.size, v.frameAt p f = .ok (span p)) : v.frames f = .ok (v.positions.map span) := by
  refine mapM_eq_ok.mpr ((List.forall₂_map_right_iff).mpr ?_)
  exact List.forall₂_same.mpr fun p hp => h p (List.mem_range.mp hp)

end View

/-! ### Integers of either width -/

/-- Numbers that are the **integers** of a width. -/
structure Integers (α : Type) [Numeric α] (bits : Nat) where
  ofInt : Int → α
  toInt : α → Int
  toInt_ofInt : ∀ n, toInt (ofInt n) = n.bmod (2 ^ bits)
  toInt_zero : toInt Numeric.zero = 0
  ofCell? : ∀ c : Cell,
    (Numeric.ofCell? c : Option α).map toInt = c.int?.map fun i => i.toInt.bmod (2 ^ bits)
  spanSums : ∀ values : Array (Option α), ∀ spans,
    (∀ s ∈ spans, s.start ≤ s.stop ∧ s.stop ≤ values.size) →
    Numeric.spanSums values spans =
      spans.map fun s => ofInt (presentSum toInt (s.slice values).toList)
  isLE_order : ∀ a b : α, (Numeric.order a b).isLE = true ↔ toInt a ≤ toInt b
  cell_storage : ∀ values : Array (Option α), ∀ row, (Numeric.storage values).cell row =
    Cell.ofOption (fun a => .int (Int64.ofInt (toInt a))) (Storage.value? values row)

/-- The integers of 32 bits. -/
def integers32 : Integers Int32 32 where
  ofInt := Int32.ofInt
  toInt := Int32.toInt
  toInt_ofInt _ := Int32.toInt_ofInt
  toInt_zero := rfl
  ofCell? c := by simp [Numeric.ofCell?, Option.map_map, Function.comp_def]
  spanSums values spans hspans := wraps_int32.sumsByDifference_eq values hspans
  isLE_order a b := Int.isLE_compare
  cell_storage _ _ := rfl

/-- The integers of 64 bits. -/
def integers64 : Integers Int64 64 where
  ofInt := Int64.ofInt
  toInt := Int64.toInt
  toInt_ofInt _ := Int64.toInt_ofInt
  toInt_zero := rfl
  ofCell? c := by simp [Numeric.ofCell?]
  spanSums values spans hspans := wraps_int64.sumsByDifference_eq values hspans
  isLE_order a b := Int.isLE_compare
  cell_storage values row := by
    simp only [Numeric.storage, Storage.cell, Int64.ofInt_toInt]

namespace Integers

variable {α : Type} [Numeric α] {bits : Nat} (w : Integers α bits)

/-- Picking among numbers finds the extreme of the integers they stand for. -/
theorem map_combine {f : α → α → α} {R : α → α → Prop} (h : Picks f R)
    {extreme? : List Int → Option Int} {S : Int → Int → Prop} (hextreme : IsExtreme extreme? S)
    (hS : ∀ a b, R a b → S (w.toInt a) (w.toInt b)) (values : List (Option α)) :
    (combine f values).map w.toInt = extreme? (values.filterMap fun v => v.map w.toInt) := by
  cases hc : combine f values with
  | none =>
    refine ((hextreme.eq_none_iff _).mpr (List.filterMap_eq_nil_iff.mpr fun v hv => ?_)).symm
    cases v with
    | none => rfl
    | some a => exact absurd hv (combine_eq_none_iff.mp hc a)
  | some a =>
    obtain ⟨hmem, first⟩ := h.combine_eq_some hc
    refine ((hextreme.eq_some_iff _ _).mpr ⟨?_, fun n hn => ?_⟩).symm
    · exact List.mem_filterMap.mpr ⟨some a, hmem, rfl⟩
    · obtain ⟨v, hv, hvn⟩ := List.mem_filterMap.mp hn
      obtain ⟨b, rfl, rfl⟩ := Option.map_eq_some_iff.mp hvn
      exact hS a b (first b hv)

/-- An aggregate lays out numbers that stand for what it makes of the integers in each frame. -/
theorem exists_storageOf {a : Aggregate} {ofInts : List Int → Int} (h : a.OfInts bits ofInts)
    (v : View) {values : Array (Option α)} {spans : List Span}
    (hspans : ∀ s ∈ spans, s.start ≤ s.stop ∧ s.stop ≤ values.size) :
    ∃ results : List α, a.storageOf v values spans = Numeric.storage (v.layout results) ∧
      results.map w.toInt =
        spans.map fun s => ofInts ((s.slice values).toList.filterMap fun v => v.map w.toInt) := by
  have := @Numeric.transCmp_order α _
  -- no number and the number zero both stand for zero
  have orZero (o : Option α) : w.toInt (o.getD Numeric.zero) = (o.map w.toInt).getD 0 := by
    cases o with
    | none => exact w.toInt_zero
    | some a => rfl
  cases h with
  | sum =>
    refine ⟨_, rfl, ?_⟩
    rw [w.spanSums values spans hspans, List.map_map]
    exact List.map_congr_left fun s _ => w.toInt_ofInt _
  | min =>
    refine ⟨_, rfl, ?_⟩
    rw [Numeric.spanLeasts_eq_map, List.map_map]
    refine List.map_congr_left fun s _ => (orZero _).trans ?_
    rw [w.map_combine (picks_lesser Numeric.order) isExtreme_min? fun a b => (w.isLE_order a b).mp]
  | max =>
    refine ⟨_, rfl, ?_⟩
    rw [Numeric.spanGreatests_eq_map, List.map_map]
    refine List.map_congr_left fun s _ => (orZero _).trans ?_
    rw [w.map_combine (picks_greater Numeric.order) isExtreme_max? fun a b => (w.isLE_order b a).mp]

/-- The integers of a source in the rows of a frame are the numbers there. -/
theorem filterMap_slice_numbers (source : Source) {v : View} {s : Span} (hstop : s.stop ≤ v.size) :
    ((s.slice (v.numbers source : Array (Option α))).toList.filterMap fun o => o.map w.toInt) =
      source.ints bits (v.rowsIn s) := by
  have slice := View.slice_map_rowAt hstop fun row =>
    (Numeric.ofCell? (source.cell row) : Option α)
  refine (congrArg (List.filterMap _) slice).trans ?_
  rw [List.filterMap_map]
  exact List.filterMap_congr fun row _ => w.ofCell? (source.cell row)

include w in
/-- **Aggregates of integers** over the frames of a complete view. -/
theorem exists_computeOver {a : Aggregate} {ofInts : List Int → Int} (ha : a.OfInts bits ofInts)
    (source : Source) {v : View} (hv : v.Complete) {f : Frame} {span : Nat → Span}
    (hspan : ∀ p < v.size, v.frameAt p f = .ok (span p)) :
    ∃ segment, a.computeOver α source v f = .ok segment ∧ ∀ p < v.size, segment.cell (v.slotAt p) =
      .int (Int64.ofInt (ofInts (source.ints bits (v.rowsIn (span p))))) := by
  have hspans : ∀ s ∈ v.positions.map span, s.start ≤ s.stop ∧
      s.stop ≤ (v.numbers source : Array (Option α)).size := by
    intro s hs
    obtain ⟨p, hp, rfl⟩ := List.mem_map.mp hs
    simpa [View.numbers, View.positions] using View.frameAt_le (hspan p (List.mem_range.mp hp))
  obtain ⟨results, hstorage, hresults⟩ := w.exists_storageOf ha v hspans
  refine ⟨⟨a.name, Numeric.storage (v.layout results)⟩, ?_, fun p hp => ?_⟩
  · rw [Aggregate.computeOver, View.frames_eq hspan, ← hstorage]
    rfl
  · have hlength : results.length = v.size := by
      simpa [View.positions] using congrArg List.length hresults
    have hp' : p < results.length := by rwa [hlength]
    -- the number computed for the position stands for the total of its frame
    have value : w.toInt results[p] = ofInts (source.ints bits (v.rowsIn (span p))) := by
      have read := congrArg (·[p]?) hresults
      simp only [List.getElem?_map, List.getElem?_eq_getElem hp', Option.map_some, List.map_map,
        View.getElem?_map_positions hp, Function.comp_apply, Option.some.injEq] at read
      rw [read, w.filterMap_slice_numbers source (View.frameAt_le (hspan p hp)).2]
    have cell := View.value?_layout hv (List.getElem?_eq_getElem hp') hlength
    rw [Column.cell, w.cell_storage, cell, Cell.ofOption_some, value]

end Integers

/-! ### Computing totals -/

/-- A source of integers is aggregated with integers of its width. -/
theorem Aggregate.exists_compute {a : Aggregate} {name : String} {s : Source} {bits : Nat}
    {ofInts : List Int → Int} (hbits : s.kind.bits? = some bits) (ha : a.OfInts bits ofInts)
    {v : View} (hs : v.partition.table.column name = .ok s) (hv : v.Complete) {f : Frame}
    {span : Nat → Span} (hspan : ∀ p < v.size, v.frameAt p f = .ok (span p)) :
    ∃ segment, a.compute name v f = .ok segment ∧ ∀ p < v.size, segment.cell (v.slotAt p) =
      .int (Int64.ofInt (ofInts (s.ints bits (v.rowsIn (span p))))) := by
  unfold Aggregate.compute
  cases hkind : s.kind with
  | int32 =>
    rw [hkind] at hbits
    cases hbits
    obtain ⟨segment, hsegment, cells⟩ := integers32.exists_computeOver ha s hv hspan
    refine ⟨segment, bind_eq_ok.mpr ⟨_, hs, ?_⟩, cells⟩
    rw [hkind]
    exact hsegment
  | int64 =>
    rw [hkind] at hbits
    cases hbits
    obtain ⟨segment, hsegment, cells⟩ := integers64.exists_computeOver ha s hv hspan
    refine ⟨segment, bind_eq_ok.mpr ⟨_, hs, ?_⟩, cells⟩
    rw [hkind]
    exact hsegment
  | null | float64 | text | boolean =>
    rw [hkind] at hbits
    cases hbits

namespace View

variable {v : View} (hv : v.Complete) {f : Frame} {span : Nat → Span}
  (hspan : ∀ p < v.size, v.frameAt p f = .ok (span p))
include hv

/-- An integer laid out for a position stands at its slot. -/
theorem cell_layout {name : String} {values : List Int64} {p : Nat} {i : Int64}
    (hi : values[p]? = some i) (hlength : values.length = v.size) :
    (Column.mk name (.int64 (v.layout values))).cell (v.slotAt p) = .int i := by
  rw [Column.cell, Storage.cell, value?_layout hv hi hlength]
  rfl

/-- `ROW_NUMBER` counts the positions of a view from one. -/
theorem Complete.exists_rowNumber (f : Frame) :
    ∃ c, Function.rowNumber.compute v f = .ok c ∧
      ∀ p < v.size, c.cell (v.slotAt p) = .int (Int64.ofNat (p + 1)) :=
  ⟨_, rfl, fun _ hp => cell_layout hv (getElem?_map_positions hp _) (by simp [positions])⟩

include hspan

/-- Rows are counted wherever the frames resolve. -/
theorem exists_countRows :
    ∃ segment, v.countRows f = .ok segment ∧ ∀ p < v.size,
      segment.cell (v.slotAt p) = .int (Int64.ofNat (v.rowsIn (span p)).length) := by
  refine ⟨_, bind_eq_ok.mpr ⟨_, frames_eq hspan, rfl⟩, ?_⟩
  intro p hp
  refine cell_layout hv ?_ (by simp [positions])
  rw [List.map_map, getElem?_map_positions hp]
  simp [rowsIn, Span.positions]

/-- Cells that are not NULL are counted wherever the frames resolve. -/
theorem exists_countCells (s : Source) :
    ∃ segment, v.countCells s f = .ok segment ∧ ∀ p < v.size, segment.cell (v.slotAt p) =
      .int (Int64.ofNat ((v.rowsIn (span p)).countP fun row => !(s.cell row).isNull)) := by
  refine ⟨_, bind_eq_ok.mpr ⟨_, frames_eq hspan, rfl⟩, ?_⟩
  intro p hp
  refine cell_layout hv ?_ (by simp [positions])
  rw [List.map_map, getElem?_map_positions hp, Function.comp_apply]
  obtain ⟨hle, hstop⟩ := frameAt_le (hspan p hp)
  have nulls := slice_map_rowAt hstop fun row => s.isNull row
  have count := countsFrom_sub (v.positions.map fun p => s.isNull (v.rowAt p)).toArray hle
    (by simpa [positions] using hstop)
  rw [count, nulls, List.countP_map]
  simp only [Function.comp_def, Source.isNull_eq]

end View

/-- **Tallies are computed row by row**: where the frames of a complete view can be resolved, the
function has a value, and at the slot of a position stands the tally of the rows in its frame. -/
theorem Function.Tallies.exists_compute {v : View} {fn : Function} {value : List Nat → Int64}
    (h : fn.Tallies v.partition.table value) (hv : v.Complete) {f : Frame} {span : Nat → Span}
    (hspan : ∀ p < v.size, v.frameAt p f = .ok (span p)) :
    ∃ segment, fn.compute v f = .ok segment ∧
      ∀ p < v.size, segment.cell (v.slotAt p) = .int (value (v.rowsIn (span p))) := by
  cases h with
  | countRows => exact View.exists_countRows hv hspan
  | count hs =>
    obtain ⟨segment, hsegment, cells⟩ := View.exists_countCells hv hspan _
    exact ⟨segment, bind_eq_ok.mpr ⟨_, hs, hsegment⟩, cells⟩
  | aggregate hs hbits ha => exact Aggregate.exists_compute hbits ha hs hv hspan

/-- Totals are computed row by row. -/
theorem Function.Totals.exists_compute {v : View} {fn : Function} {value : List Nat → Int64}
    (h : fn.Totals v.partition.table value) (hv : v.Complete) {f : Frame} {span : Nat → Span}
    (hspan : ∀ p < v.size, v.frameAt p f = .ok (span p)) :
    ∃ segment, fn.compute v f = .ok segment ∧
      ∀ p < v.size, segment.cell (v.slotAt p) = .int (value (v.rowsIn (span p))) :=
  h.tallies.exists_compute hv hspan

end WindowQuery
