import WindowQuery.Proofs.Function.Direct

/-!
# Sums and averages of doubles

Addition of doubles rounds at every step, so a sum depends on the order in which it is carried out,
and running sums cannot be subtracted from each other. `SUM` over doubles adds those of a frame from
its first position to its last, from zero on. `AVG` adds the numbers of a column of any numeric kind
in this way, as doubles and from negative zero on. It divides by the number of all positions in the
frame, also of those that hold no number, and an empty frame averages to zero.

A sum that begins like the one of the frame before is taken up from there (`Span.foldAll`). The
results are those of adding up each frame by itself (`Partition.sort_doubles`).
-/

namespace WindowQuery

/-! ### Doubles and averages of spans -/

/-- The **double** that aggregates read of a cell, in a column of some kind. An integer is reduced to
the width of the kind first. -/
def Kind.double? : Kind → Cell → Option Float
  | .int32, c => c.int?.map fun i => Binary64.ofInt i.toInt32.toInt
  | .int64, c => c.int?.map fun i => Binary64.ofInt i.toInt
  | .float64, c => c.float?
  | .null, _ | .text, _ | .boolean, _ => none

namespace View

/-- The doubles at the positions of a span, in order. Positions that hold no number are left out. -/
def doublesIn (v : View) (s : Source) (span : Span) : List Float :=
  span.positions.filterMap fun q => s.kind.double? (v.cellAt s q)

/-- The **average** over a span: the sum of its doubles, divided by the number of its positions. -/
def averageIn (v : View) (s : Source) (span : Span) : Float :=
  if span.isEmpty then 0
  else (v.doublesIn s span).foldl (· + ·) Binary64.negativeZero / Binary64.ofNat span.size

end View

/-- A span is empty when it has no size. -/
theorem Span.isEmpty_iff_size {s : Span} : s.isEmpty = true ↔ s.size = 0 := by
  rw [isEmpty, decide_eq_true_eq, size, Nat.sub_eq_zero_iff_le]

/-- Numbers that are missing can be left out before the others are added. -/
theorem foldl_addPresent {α : Type} (add : α → α → α) (start : α) (values : List (Option α)) :
    values.foldl (addPresent add) start = (values.filterMap id).foldl add start := by
  induction values generalizing start with
  | nil => rfl
  | cons v rest ih =>
    cases v with
    | none => exact ih start
    | some a => exact ih (add start a)

/-! ### Numbers as doubles -/

namespace Numeric

/-- Doubles are doubles already. -/
theorem doubles_float (values : Array (Option Float)) : doubles values = values := by
  have same : (fun v : Option Float => v.map Numeric.toDouble) = id :=
    funext fun _ => Option.map_id'
  rw [doubles, same, Array.map_id]

/-- The average of numbers: the sum of those present, divided by the number of all places. -/
def average {α : Type} [Numeric α] (values : Array (Option α)) : Float :=
  if values.size = 0 then 0
  else (doubles values).foldl (addPresent (· + ·)) Binary64.negativeZero /
    Binary64.ofNat values.size

/-- Averages over spans are those of the numbers in each of them. -/
theorem spanAverages_eq_average {α : Type} [Numeric α] {values : Array (Option α)}
    {spans : List Span} (hspans : ∀ s ∈ spans, s.start ≤ s.stop ∧ s.stop ≤ values.size) :
    spanAverages values spans = spans.map fun s => average (s.slice values) := by
  rw [spanAverages_eq_map]
  refine List.map_congr_left fun s hs => ?_
  obtain ⟨-, hstop⟩ := hspans s hs
  have size : (s.slice values).size = s.size := by
    rw [Span.slice, Array.size_extract, Nat.min_eq_left hstop, Span.size]
  have slice : s.slice (doubles values) = doubles (s.slice values) := by
    rw [doubles, doubles, Span.slice, Span.slice, Array.map_extract]
  rw [Span.fold_eq_foldl_slice, slice, average, size]
  simp only [Span.isEmpty_iff_size]

/-- A type of numbers **reads** a kind of column when its numbers, as doubles, are the doubles of the
cells. -/
def Reads (α : Type) [Numeric α] (kind : Kind) : Prop :=
  ∀ c : Cell, (ofCell? c : Option α).map toDouble = kind.double? c

theorem reads_int32 {kind : Kind} (h : kind = .int32) : Reads Int32 kind := by
  subst h
  exact fun _ => Option.map_map ..

theorem reads_int64 {kind : Kind} (h : kind = .int64) : Reads Int64 kind := by
  subst h
  exact fun _ => rfl

theorem reads_float {kind : Kind} (h : kind = .float64) : Reads Float kind := by
  subst h
  exact fun _ => Option.map_id'

namespace Reads

variable {α : Type} [Numeric α] {s : Source} (reads : Reads α s.kind) (v : View) (span : Span)
include reads

/-- Adding up the numbers in a span, as doubles, adds up its doubles. -/
theorem foldl_numbersIn (start : Float) :
    (doubles (v.numbersIn α s span)).foldl (addPresent (· + ·)) start =
      (v.doublesIn s span).foldl (· + ·) start := by
  have numbers : (doubles (v.numbersIn α s span)).toList =
      span.positions.map fun q => s.kind.double? (v.cellAt s q) := by
    simp only [doubles, View.numbersIn, List.map_toArray, List.map_map]
    exact List.map_congr_left fun q _ => reads (v.cellAt s q)
  rw [← Array.foldl_toList, numbers, foldl_addPresent, List.filterMap_map]
  rfl

theorem average_numbersIn : average (v.numbersIn α s span) = v.averageIn s span := by
  have size : (v.numbersIn α s span).size = span.size := by
    simp [View.numbersIn, Span.positions]
  rw [average, View.averageIn, size, reads.foldl_numbersIn]
  simp only [Span.isEmpty_iff_size]

end Reads

end Numeric

/-! ### Aggregates -/

/-- **Averages, frame by frame.** -/
theorem Aggregate.exists_computeOver_avg {α : Type} [Numeric α] {s : Source}
    (reads : Numeric.Reads α s.kind) {v : View} (hv : v.Complete) {f : Frame} {span : Nat → Span}
    (hspan : ∀ i < v.size, v.frameAt i f = .ok (span i)) :
    ∃ c, Aggregate.avg.computeOver α s v f = .ok c ∧ c.size = v.size ∧
      ∀ i < v.size, c.cell (v.slotAt i) = .float (v.averageIn s (span i)) := by
  have storageOf_avg (v : View) (values : Array (Option α)) (spans : List Span)
      (hspans : ∀ s ∈ spans, s.start ≤ s.stop ∧ s.stop ≤ values.size) :
      Aggregate.avg.storageOf v values spans =
        .float64 (v.layout (spans.map fun s => Numeric.average (s.slice values))) := by
    rw [storageOf, Numeric.spanAverages_eq_average hspans]
  obtain ⟨averages, hcompute, hsize, haverages⟩ :=
    exists_computeOver_of_spans storageOf_avg s hv hspan
  refine ⟨_, hcompute, hsize, fun i hi => ?_⟩
  rw [← reads.average_numbersIn]
  exact congrArg (Cell.ofOption .float) (haverages i hi)

/-- **Sums and averages of doubles**, in the view of any sort and for any frame that resolves at
every position. Every slot belongs to a position. The sum of a column of doubles adds the doubles of
the frame from left to right, and the average of a column of numbers is that over the frame. -/
theorem Partition.sort_doubles {p : Partition} {sortKeys : List SortKey} {threshold : Nat}
    {v : View} (hsort : p.sort sortKeys threshold = .ok v) {f : Frame} {span : Nat → Span}
    (hspan : ∀ i < v.size, v.frameAt i f = .ok (span i)) {name : String} {s : Source}
    (hs : p.table.column name = .ok s) :
    (∀ slot < p.size, ∃ i < v.size, v.slotAt i = slot) ∧
    (s.kind = .float64 → ∃ c, (Function.aggregate .sum name).compute v f = .ok c ∧
      c.size = p.size ∧ ∀ i < v.size,
        c.cell (v.slotAt i) = .float ((v.doublesIn s (span i)).foldl (· + ·) 0)) ∧
    (s.kind.isNumeric = true → ∃ c, (Function.aggregate .avg name).compute v f = .ok c ∧
      c.size = p.size ∧ ∀ i < v.size,
        c.cell (v.slotAt i) = .float (v.averageIn s (span i))) := by
  have hv := complete_of_sort hsort
  obtain ⟨rfl, -, -⟩ := sort_eq_ok hsort
  have size : v.size = v.partition.size := hv.size_eq
  refine ⟨fun slot hslot => hv.exists_slotAt_eq hslot, fun hkind => ?_, fun hkind => ?_⟩
  · obtain ⟨totals, hcompute, hsize, htotals⟩ := Aggregate.exists_computeOver_sum
      (fun values spans _ => Numeric.spanSums_double values spans) s hv hspan
    refine ⟨⟨"sum", Numeric.storage totals⟩, bind_eq_ok.mpr ⟨s, hs, ?_⟩, hsize.trans size,
      fun i hi => ?_⟩
    · rw [hkind]
      exact hcompute
    · have total : Numeric.sum (v.numbersIn Float s (span i)) =
          (v.doublesIn s (span i)).foldl (· + ·) 0 := by
        have added := (Numeric.reads_float hkind).foldl_numbersIn v (span i) 0
        rwa [Numeric.doubles_float] at added
      rw [← total]
      exact congrArg (Cell.ofOption .float) (htotals i hi)
  · have averages {α : Type} [Numeric α] (reads : Numeric.Reads α s.kind) :=
      Aggregate.exists_computeOver_avg reads hv hspan
    obtain ⟨c, hcompute, hsize, cells⟩ : ∃ c, Aggregate.avg.compute name v f = .ok c ∧
        c.size = v.size ∧ ∀ i < v.size, c.cell (v.slotAt i) = .float (v.averageIn s (span i)) := by
      -- each numeric kind is aggregated with a type of numbers of its own
      obtain kind | kind | kind : s.kind = .int32 ∨ s.kind = .int64 ∨ s.kind = .float64 := by
        cases kind : s.kind <;> simp [kind, Kind.isNumeric] at hkind ⊢
      · obtain ⟨c, hcompute, h⟩ := averages (Numeric.reads_int32 kind)
        exact ⟨c, bind_eq_ok.mpr ⟨s, hs, by rwa [kind]⟩, h⟩
      · obtain ⟨c, hcompute, h⟩ := averages (Numeric.reads_int64 kind)
        exact ⟨c, bind_eq_ok.mpr ⟨s, hs, by rwa [kind]⟩, h⟩
      · obtain ⟨c, hcompute, h⟩ := averages (Numeric.reads_float kind)
        exact ⟨c, bind_eq_ok.mpr ⟨s, hs, by rwa [kind]⟩, h⟩
    exact ⟨c, hcompute, hsize.trans size, cells⟩

end WindowQuery
