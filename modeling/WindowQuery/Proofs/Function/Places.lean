import WindowQuery.Proofs.Frame.Rows
import WindowQuery.Proofs.Function.Reading
import WindowQuery.Proofs.Function.Totals

/-!
# Offsets and counts as frames

The frame of a single row holds the position that its bound points at, and nothing where the view
has no such position (`View.frameAt_single`). `LAG` and `LEAD` therefore read what `NTH_VALUE` finds
in it. `FIRST_VALUE` and `LAST_VALUE` read what it finds at the ends of the frame of all rows, and
`ROW_NUMBER` is the size of the running frame. None of them looks at a frame: that they coincide
with functions that do (`Function.Coincides`) is `Partition.sort_coincides`.
-/

namespace WindowQuery

/-- Two functions **coincide** over a view, each with a frame of its own: they compute columns of
one kind with the same cells. -/
def Function.Coincides (fn fn' : Function) (v : View) (f f' : Frame) : Prop :=
  ∃ c c', fn.compute v f = .ok c ∧ fn'.compute v f' = .ok c' ∧ c'.kind = c.kind ∧
    c'.cells = c.cells

/-- The frame of the single row at a bound. -/
def Frame.single (b : Bound) : Frame := ⟨.rows, b, b⟩

namespace View

variable {v : View}

/-! ### Columns by position -/

/-- Columns of the size of a view are told apart at the slots of its positions. -/
theorem Complete.cells_eq (hv : v.Complete) {c c' : Column} (hsize : c.size = v.size)
    (hsize' : c'.size = v.size) (h : ∀ i < v.size, c'.cell (v.slotAt i) = c.cell (v.slotAt i)) :
    c'.cells = c.cells := by
  rw [Column.cells, Column.cells, hsize, hsize']
  refine List.map_congr_left fun slot hslot => ?_
  rw [List.mem_range, hv.size_eq] at hslot
  obtain ⟨i, hi, rfl⟩ := hv.exists_slotAt_eq hslot
  exact h i hi

/-- Functions that read at the same positions coincide. -/
theorem Complete.coincides_of_reads (hv : v.Complete) {fn fn' : Function} {f f' : Frame}
    {c : Column} {default : Cell} {source source' : Nat → Option Nat}
    (hfn : fn.Reads v f c default source) (hfn' : fn'.Reads v f' c default source')
    (hsource : ∀ i < v.size, source' i = source i) : fn.Coincides fn' v f f' := by
  obtain ⟨out, hout, hkind, hsize, cells⟩ := hfn
  obtain ⟨out', hout', hkind', hsize', cells'⟩ := hfn'
  refine ⟨out, out', hout, hout', hkind'.trans hkind.symm, hv.cells_eq hsize hsize' fun i hi => ?_⟩
  rw [cells i hi, cells' i hi, hsource i hi]

/-! ### Frames of a single row -/

/-- **The frame of a single row** begins with the position at the displacement of its bound, and is
empty where the view has no such position. -/
theorem frameAt_single {i : Nat} (hi : i < v.size) {b : Bound} {distance : Int}
    (hb : (Frame.single b).Proper) (hstart : v.rowsStart i b = .ok (i + distance).toNat)
    (hstop : v.rowsStop i b = .ok (i + distance + 1).toNat) :
    ∃ span, v.frameAt i (.single b) = .ok span ∧ span.place? 1 = v.position? (i + distance) := by
  refine ⟨_, frameAt_rows_eq_ok rfl hb hi hstart hstop, ?_⟩
  rw [Span.place?, position?]
  dsimp only
  split
  · rw [if_pos (by omega)]
    exact congrArg some (by omega)
  · rw [if_neg (by omega)]

section

variable {k : Int64} (hk : 0 ≤ k.toInt) {i : Nat} (hi : i < v.size)
include hk hi

/-- A frame of one row before the current one holds that row, if there is one. -/
theorem frameAt_preceding : ∃ span, v.frameAt i (.single (.preceding (.int k))) = .ok span ∧
    span.place? 1 = v.position? (i + -k.toInt) := by
  have start : (i + -k.toInt).toNat = i - k.toInt.toNat := by omega
  have stop : (i + -k.toInt + 1).toNat = i + 1 - k.toInt.toNat := by omega
  refine frameAt_single hi ⟨nofun, nofun⟩ ?_ ?_
  · rw [rowsStart, Offset.count_int hk, start]
    rfl
  · rw [rowsStop, Offset.count_int hk, stop]
    rfl

/-- A frame of one row after the current one holds that row, if there is one. -/
theorem frameAt_following : ∃ span, v.frameAt i (.single (.following (.int k))) = .ok span ∧
    span.place? 1 = v.position? (i + k.toInt) := by
  have start : (i + k.toInt).toNat = i + k.toInt.toNat := by omega
  have stop : (i + k.toInt + 1).toNat = i + k.toInt.toNat + 1 := by omega
  refine frameAt_single hi ⟨nofun, nofun⟩ ?_ ?_
  · rw [rowsStart, Offset.count_int hk, start]
    rfl
  · rw [rowsStop, Offset.count_int hk, stop]
    rfl

end

/-! ### Coinciding functions -/

section

variable (hv : v.Complete) {column : String} {c : Column}
  (hc : v.partition.table.column column = .ok (.typed c))
include hv hc

/-- A function that reads where `NTH_VALUE` finds the place of its frame coincides with it. -/
theorem coincides_nthValue {fn : Function} {f f' : Frame} {place : Nat} (hplace : 1 ≤ place)
    {source : Nat → Option Nat} (hfn : fn.Reads v f c .null source)
    (hspan : ∀ i < v.size, ∃ span, v.frameAt i f' = .ok span ∧ span.place? place = source i) :
    fn.Coincides (.nthValue column place) v f f' := by
  have : Nonempty Span := ⟨⟨0, 0⟩⟩
  choose! span hspan hsource using hspan
  exact hv.coincides_of_reads hfn (reads_nthValue hv hc hplace hspan) hsource

/-- `LAG` reads the only row of a frame that far before. -/
theorem lag_coincides {k : Int64} (hk : 0 ≤ k.toInt) (f : Frame) :
    (Function.lag column k.toInt.toNat .null).Coincides (.nthValue column 1) v f
      (.single (.preceding (.int k))) := by
  have shifts : (Function.lag column k.toInt.toNat .null).Shifts v f c .null (-k.toInt.toNat) :=
    shifts_lag hv hc k.toInt.toNat
  rw [Int.toNat_of_nonneg hk] at shifts
  exact coincides_nthValue hv hc (Nat.le_refl 1) shifts.reads_null fun i hi =>
    frameAt_preceding hk hi

/-- `LEAD` reads the only row of a frame that far after. -/
theorem lead_coincides {k : Int64} (hk : 0 ≤ k.toInt) (f : Frame) :
    (Function.lead column k.toInt.toNat .null).Coincides (.nthValue column 1) v f
      (.single (.following (.int k))) := by
  have shifts : (Function.lead column k.toInt.toNat .null).Shifts v f c .null k.toInt.toNat :=
    shifts_lead hv hc k.toInt.toNat
  rw [Int.toNat_of_nonneg hk] at shifts
  exact coincides_nthValue hv hc (Nat.le_refl 1) shifts.reads_null fun i hi =>
    frameAt_following hk hi

end

/-- Rows are numbered by the sizes of their running frames. -/
theorem rowNumber_coincides (hv : v.Complete) (f : Frame) :
    Function.rowNumber.Coincides .countRows v f .running := by
  obtain ⟨c, hc, cells⟩ := hv.exists_rowNumber f
  obtain ⟨c', hc', cells'⟩ := exists_countRows hv fun p hp => frameAt_running hp
  have hc'' : Function.countRows.compute v .running = .ok c' := hc'
  obtain ⟨_, ⟨⟩, segment⟩ := Function.isSegment_compute hc
  obtain ⟨_, ⟨⟩, segment'⟩ := Function.isSegment_compute hc''
  refine ⟨c, c', hc, hc', segment'.kind_eq.trans segment.kind_eq.symm,
    hv.cells_eq segment.size_eq segment'.size_eq fun i hi => ?_⟩
  rw [cells i hi, cells' i hi, rowsIn, List.length_map, Span.positions, List.length_range']
  rfl

end View

/-- **Offsets and counts are frames.** In the view of any sort that has rows, `LAG` and `LEAD` find
the row that a frame of one row holds, `FIRST_VALUE` and `LAST_VALUE` the ends of the frame of all
rows, and `ROW_NUMBER` the size of the running frame. `NTH_VALUE` reads a place of any frame,
however great, and computes exactly where all frames can be resolved. -/
theorem Partition.sort_coincides {p : Partition} {sortKeys : List SortKey} {threshold : Nat}
    {v : View} (hsort : p.sort sortKeys threshold = .ok v) (hsize : 0 < v.size) {column : String}
    {c : Column} (hc : p.table.column column = .ok (.typed c)) :
    (∀ k : Int64, 0 ≤ k.toInt → ∀ f,
      (Function.lag column k.toInt.toNat .null).Coincides (.nthValue column 1) v f
        ⟨.rows, .preceding (.int k), .preceding (.int k)⟩) ∧
    (∀ k : Int64, 0 ≤ k.toInt → ∀ f,
      (Function.lead column k.toInt.toNat .null).Coincides (.nthValue column 1) v f
        ⟨.rows, .following (.int k), .following (.int k)⟩) ∧
    (∀ f, (Function.firstValue column).Coincides (.nthValue column 1) v f .wholePartition) ∧
    (∀ f, (Function.lastValue column).Coincides (.nthValue column v.size) v f .wholePartition) ∧
    (∀ f, Function.rowNumber.Coincides .countRows v f .running) ∧
    ∀ place f, 1 ≤ place →
      ((∃ out, (Function.nthValue column place).compute v f = .ok out) ↔
        ∀ i < v.size, v.Resolves f i) ∧
      ∀ span : Nat → Span, (∀ i < v.size, v.frameAt i f = .ok (span i)) →
        (Function.nthValue column place).Reads v f c .null fun i => (span i).place? place := by
  have hv := complete_of_sort hsort
  obtain ⟨rfl, -, -⟩ := sort_eq_ok hsort
  -- the frame of all rows has every place that the view has
  have whole (place : Nat) (hplace : place - 1 < v.size) : ∀ i < v.size,
      ∃ span, v.frameAt i .wholePartition = .ok span ∧ span.place? place = some (place - 1) := by
    intro i hi
    refine ⟨_, View.frameAt_wholePartition hi, ?_⟩
    rw [Span.place?, Nat.zero_add, if_pos hplace]
  refine ⟨fun k hk f => View.lag_coincides hv hc hk f,
    fun k hk f => View.lead_coincides hv hc hk f, fun f => ?_, fun f => ?_,
    fun f => View.rowNumber_coincides hv f, fun place f hplace =>
      ⟨View.exists_nthValue_iff hv hc hplace, fun span hspan =>
        View.reads_nthValue hv hc hplace hspan⟩⟩
  · exact View.coincides_nthValue hv hc (Nat.le_refl 1) (View.reads_of_constant hv hc rfl)
      (whole 1 hsize)
  · exact View.coincides_nthValue hv hc hsize (View.reads_of_constant hv hc rfl)
      (whole v.size (by omega))

/-- Stops of a bus, one of them without a name, and the minutes at which it leaves them. -/
private def stopNames : Column := ⟨"stop", .text #[some "mill", none, some "quay"]⟩

private def stopMinutes : Column := ⟨"minute", .int64 #[some 12, some 4, some 8]⟩

private def stops : Partition :=
  ⟨⟨[.typed stopNames, .typed stopMinutes], [("stop", 0), ("minute", 1)]⟩, #[0, 1, 2]⟩

/-- The stops from the last to the first. -/
private def stopsView : View := stops.viewBy [⟨"minute", false⟩] [.typed stopMinutes] 9

private theorem stopsView_slots : stopsView.size = 3 ∧ stopsView.slotAt 0 = 0 ∧
    stopsView.slotAt 1 = 2 ∧ stopsView.slotAt 2 = 1 := by
  cbv

/-- The last stop has no second one in its frame, which runs from the end of the trip. -/
theorem Partition.sort_coincides_stops :
    stops.sort [⟨"minute", false⟩] 9 = .ok stopsView ∧ 0 < stopsView.size ∧
      (Function.lag "stop" 1 .null).Coincides (.nthValue "stop" 1) stopsView .running
        ⟨.rows, .preceding (.int 1), .preceding (.int 1)⟩ ∧
      (Function.lastValue "stop").Coincides (.nthValue "stop" 3) stopsView .running
        .wholePartition ∧
      ∃ out, (Function.nthValue "stop" 2).compute stopsView .running = .ok out ∧
        out.cell 0 = .null ∧ out.cell 2 = .text "quay" ∧ out.cell 1 = .text "quay" := by
  have hsort : stops.sort [⟨"minute", false⟩] 9 = .ok stopsView := rfl
  have hnames : stops.table.column "stop" = .ok (.typed stopNames) := rfl
  obtain ⟨hsize, slot0, slot1, slot2⟩ := stopsView_slots
  have hpos : 0 < stopsView.size := by rw [hsize]; decide
  obtain ⟨lag, -, -, last, -, nth⟩ := sort_coincides hsort hpos hnames
  rw [hsize] at last
  obtain ⟨-, reads⟩ := nth 2 .running (by decide)
  obtain ⟨out, hout, -, -, cells⟩ := reads (fun i => ⟨0, i + 1⟩) fun _ hi => View.frameAt_running hi
  rw [hsize] at cells
  have first := cells 0 (by decide)
  have second := cells 1 (by decide)
  have third := cells 2 (by decide)
  rw [slot0] at first
  rw [slot1] at second
  rw [slot2] at third
  exact ⟨hsort, hpos, lag 1 (by decide) .running, last .running, out, hout, first.trans (by cbv),
    second.trans (by cbv), third.trans (by cbv)⟩

end WindowQuery
