import WindowQuery.Proofs.Frame.Covers
import WindowQuery.Proofs.Function.Fill
import WindowQuery.Proofs.View.Sorted

/-!
# Cells of other positions

`LAG`, `LEAD`, `FIRST_VALUE`, `LAST_VALUE` and `NTH_VALUE` read a typed column at another position
than the one they compute, or at none (`Function.Reads`). They differ in where they read. `LAG` and
`LEAD` are one shift by a signed distance, which is measured in whole numbers and so never wraps
around (`Partition.sort_shifts`). What they read fits the column they fill, so that only a default
can be refused, and only when a position needs it.
-/

namespace WindowQuery

/-- The position at a place of a span, counted from one, if the span has it. -/
def Span.place? (s : Span) (place : Nat) : Option Nat :=
  if s.start + (place - 1) < s.stop then some (s.start + (place - 1)) else none

/-- The position that a whole number stands for, if the view has it. -/
def View.position? (v : View) (z : Int) : Option Nat :=
  if 0 ≤ z ∧ z < v.size then some z.toNat else none

/-- The cell that is **read** at a position, and the default, as the column holds it, at none. -/
def View.read (v : View) (c : Column) (default : Cell) (position : Option Nat) : Cell :=
  (position.map (v.cellAt (.typed c))).getD (default.heldAs c.kind)

/-- A function **reads** a typed column along a view: for every position it finds the cell of the
column at a position, or a default where there is none, and leaves it in the slot. -/
def Function.Reads (fn : Function) (v : View) (f : Frame) (c : Column) (default : Cell)
    (source : Nat → Option Nat) : Prop :=
  ∃ out, fn.compute v f = .ok out ∧ out.kind = c.kind ∧ out.size = v.size ∧
    ∀ i < v.size, out.cell (v.slotAt i) = v.read c default (source i)

/-- A function **shifts** a typed column along a view by a signed distance. A default is needed as
soon as there is a row and the distance is not zero; if it does not fit the column then, it is
refused. Nothing else is. -/
structure Function.Shifts (fn : Function) (v : View) (f : Frame) (c : Column) (default : Cell)
    (distance : Int) : Prop where
  refuses : 0 < v.size ∧ distance ≠ 0 ∧ c.kind.fits default = false →
    fn.compute v f = .error (.conversion default.kind c.kind)
  reads : ¬ (0 < v.size ∧ distance ≠ 0 ∧ c.kind.fits default = false) →
    fn.Reads v f c default fun i => v.position? (i + distance)

theorem Kind.fits_null (kind : Kind) : kind.fits .null = true := by cases kind <;> rfl

/-- With no default a column can always be shifted. -/
theorem Function.Shifts.reads_null {fn : Function} {v : View} {f : Frame} {c : Column}
    {distance : Int} (h : fn.Shifts v f c .null distance) :
    fn.Reads v f c .null fun i => v.position? (i + distance) :=
  h.reads fun ⟨_, _, unfit⟩ => nomatch c.kind.fits_null.symm.trans unfit

namespace View

variable {v : View} {c : Column} {default : Cell}

theorem position?_natCast {j : Nat} (hj : j < v.size) : v.position? j = some j := by
  rw [position?, if_pos (by omega), Int.toNat_natCast]

/-- Some position has none at any distance but zero. -/
theorem exists_position?_eq_none {distance : Int} (hsize : 0 < v.size) (hdistance : distance ≠ 0) :
    ∃ i < v.size, v.position? (i + distance) = none := by
  rcases Int.lt_or_gt_of_ne hdistance with hback | hforward
  · exact ⟨0, hsize, if_neg (by omega)⟩
  · exact ⟨v.size - 1, by omega, if_neg (by omega)⟩

theorem before?_eq_position? {i : Nat} (hi : i < v.size) (k : Nat) :
    before? i k = v.position? (i + -k) := by
  rw [before?, position?]
  split
  · rw [if_pos (by omega)]
    exact congrArg some (by omega)
  · rw [if_neg (by omega)]

theorem after?_eq_position? (i k : Nat) : v.after? i k = v.position? (i + k) := by
  rw [after?, position?]
  split
  · rw [if_pos (by omega)]
    exact congrArg some (by omega)
  · rw [if_neg (by omega)]

/-- The cell at a place of the frame of a position, counted from one. -/
def nthCell (v : View) (s : Source) (place : Nat) (f : Frame) (i : Nat) :
    Except QueryError (Option Cell) := do
  let span ← v.frameAt i f
  let target := span.start + (place - 1)
  return if target < span.stop then some (v.cellAt s target) else none

/-- A place from one on passes the check, and the column is filled with what stands there. -/
theorem nthValue_eq_fill {column : String}
    (hc : v.partition.table.column column = .ok (.typed c)) {place : Nat} (hplace : 1 ≤ place)
    {f : Frame} : (Function.nthValue column place).compute v f =
      v.fill "nth_value" c.kind (v.nthCell (.typed c) place f) := by
  obtain ⟨place, rfl⟩ := Nat.exists_eq_add_of_le' hplace
  have nth : (Function.nthValue column (place + 1)).compute v f =
      v.partition.table.column column >>= fun s =>
        v.fill "nth_value" s.kind (v.nthCell s (place + 1) f) := rfl
  rw [nth, hc]
  rfl

section

variable (hv : v.Complete) {name column : String} {cellFor : Nat → Except QueryError (Option Cell)}
include hv

/-- What is read at positions, or at none, is filled in, provided that the default fits where it is
needed. -/
theorem exists_fill_read {source : Nat → Option Nat}
    (hcellFor : ∀ i < v.size, ∃ given, cellFor i = .ok given ∧
      given.getD .null = (source i).elim default fun j => v.cellAt (.typed c) j)
    (hdefault : ∀ i < v.size, source i = none → c.kind.fits default = true) :
    ∃ out, v.fill name c.kind cellFor = .ok out ∧ out.kind = c.kind ∧ out.size = v.size ∧
      ∀ i < v.size, out.cell (v.slotAt i) = v.read c default (source i) := by
  choose! given hgiven hcell using hcellFor
  have fits : ∀ i < v.size, c.kind.fits ((given i).getD .null) = true := by
    intro i hi
    rw [hcell i hi]
    cases hsource : source i with
    | none => exact hdefault i hi hsource
    | some j => exact c.fits_cell (v.rowAt j)
  obtain ⟨out, hout, segment, cells⟩ := exists_fill hv hgiven fits
  refine ⟨out, hout, segment.kind_eq.trans c.stored_kind, segment.size_eq, fun i hi => ?_⟩
  rw [cells i hi, hcell i hi, read]
  cases source i with
  | none => rfl
  | some j => exact c.heldAs_cell (v.rowAt j)

variable (hc : v.partition.table.column column = .ok (.typed c)) {fn : Function} {f : Frame}
include hc

/-- A column that is shifted to targets at a distance is read there, unless the default is
refused. -/
theorem shifts_of_shifted {target : Nat → Option Nat} {distance : Int}
    (hfn : fn.compute v f = v.shifted name column default target)
    (htarget : ∀ i < v.size, target i = v.position? (i + distance)) :
    fn.Shifts v f c default distance := by
  have filled : fn.compute v f =
      v.fill name c.kind (v.shiftedCell (.typed c) default target) := by
    rw [hfn, shifted_eq, hc]
    rfl
  constructor
  · rintro ⟨hsize, hdistance, unfit⟩
    rw [filled]
    cases hfill : v.fill name c.kind (v.shiftedCell (.typed c) default target) with
    | ok out =>
      -- some position has no target, and would have been given the default
      obtain ⟨i, hi, hnone⟩ := exists_position?_eq_none hsize hdistance
      obtain ⟨kept, given, hgiven, hkept⟩ := (exists_fill_iff hv).mp ⟨out, hfill⟩ i hi
      rw [shiftedCell, htarget i hi, hnone] at hgiven
      cases hgiven
      rw [Option.getD_some, Kind.keeps?_eq, unfit] at hkept
      cases hkept
    | error e =>
      -- of the cells that are given only the default can be the one refused
      obtain ⟨i, hi, hgiven | ⟨d, hgiven, unfit', rfl⟩⟩ := fill_eq_error hv hfill
      · rw [shiftedCell] at hgiven
        split at hgiven <;> cases hgiven
      · rw [shiftedCell] at hgiven
        split at hgiven <;> cases hgiven
        · cases (c.fits_cell _).symm.trans unfit'
        · rw [c.stored_kind]
  · intro accepted
    rw [Function.Reads, filled]
    refine exists_fill_read hv (fun i hi => ?_) fun i hi hnone => ?_
    · rw [shiftedCell, htarget i hi]
      cases v.position? (i + distance) with
      | none => exact ⟨_, rfl, rfl⟩
      | some j => exact ⟨_, rfl, rfl⟩
    · by_contra unfit
      refine accepted ⟨by omega, fun hzero => ?_, Bool.eq_false_iff.mpr unfit⟩
      rw [hzero, Int.add_zero, position?_natCast hi] at hnone
      cases hnone

theorem shifts_lag (k : Nat) : (Function.lag column k default).Shifts v f c default (-k) :=
  shifts_of_shifted hv hc rfl fun _ hi => before?_eq_position? hi k

theorem shifts_lead (k : Nat) : (Function.lead column k default).Shifts v f c default k :=
  shifts_of_shifted hv hc rfl fun i _ => after?_eq_position? i k

/-- A column that is read at one position for all is read there. -/
theorem reads_of_constant {target : Nat} (hfn : fn.compute v f = v.constant name column target) :
    fn.Reads v f c .null fun _ => some target := by
  have filled : fn.compute v f =
      v.fill name c.kind fun _ => .ok (some (v.cellAt (.typed c) target)) := by
    rw [hfn, constant, hc]
    rfl
  rw [Function.Reads, filled]
  exact exists_fill_read hv (fun _ _ => ⟨_, rfl, rfl⟩) nofun

/-- **`NTH_VALUE` reads a place of the frame**, where the frame has it. -/
theorem reads_nthValue {place : Nat} (hplace : 1 ≤ place) {span : Nat → Span}
    (hspan : ∀ i < v.size, v.frameAt i f = .ok (span i)) :
    (Function.nthValue column place).Reads v f c .null fun i => (span i).place? place := by
  have given : ∀ i < v.size, ∃ given, v.nthCell (.typed c) place f i = .ok given ∧
      given.getD .null = ((span i).place? place).elim .null fun j => v.cellAt (.typed c) j := by
    intro i hi
    refine ⟨_, bind_eq_ok.mpr ⟨span i, hspan i hi, rfl⟩, ?_⟩
    rw [Span.place?]
    split <;> rfl
  rw [Function.Reads, nthValue_eq_fill hc hplace]
  exact exists_fill_read hv given fun _ _ _ => c.kind.fits_null

/-- It computes where all frames can be resolved, and nowhere else. -/
theorem exists_nthValue_iff {place : Nat} (hplace : 1 ≤ place) :
    (∃ out, (Function.nthValue column place).compute v f = .ok out) ↔
      ∀ i < v.size, v.Resolves f i := by
  constructor
  · rintro ⟨out, hout⟩ i hi
    rw [nthValue_eq_fill hc hplace] at hout
    obtain ⟨-, given, hgiven, -⟩ := (exists_fill_iff hv).mp ⟨out, hout⟩ i hi
    obtain ⟨span, hspan, -⟩ := bind_eq_ok.mp hgiven
    exact ⟨span, hspan⟩
  · intro resolves
    obtain ⟨span, hspan⟩ := exists_spans resolves
    obtain ⟨out, hout, -⟩ := reads_nthValue hv hc hplace hspan
    exact ⟨out, hout⟩

end

end View

/-- **Shifting a column.** In the view of any sort, `LAG` reads a typed column a number of rows
before each position and `LEAD` as many rows behind it, however great the number is. -/
theorem Partition.sort_shifts {p : Partition} {sortKeys : List SortKey} {threshold : Nat} {v : View}
    (hsort : p.sort sortKeys threshold = .ok v) {column : String} {c : Column}
    (hc : p.table.column column = .ok (.typed c)) (k : Nat) (default : Cell) (f : Frame) :
    (Function.lag column k default).Shifts v f c default (-k) ∧
      (Function.lead column k default).Shifts v f c default k := by
  have hv := complete_of_sort hsort
  obtain ⟨rfl, -, -⟩ := sort_eq_ok hsort
  exact ⟨View.shifts_lag hv hc k, View.shifts_lead hv hc k⟩

/-- Heights of the tide, one of them missing, and the hours at which they were taken. -/
private def tideHeights : Column := ⟨"height", .int32 #[some 310, none, some (-40)]⟩

private def tideHours : Column := ⟨"hour", .int64 #[some 9, some 3, some 6]⟩

private def tides : Partition :=
  ⟨⟨[.typed tideHeights, .typed tideHours], [("height", 0), ("hour", 1)]⟩, #[0, 1, 2]⟩

/-- The tides from the first hour to the last. -/
private def tidesView : View := tides.viewBy [⟨"hour", true⟩] [.typed tideHours] 5

private theorem tidesView_slots : tidesView.size = 3 ∧ tidesView.slotAt 0 = 1 ∧
    tidesView.slotAt 1 = 2 ∧ tidesView.slotAt 2 = 0 := by
  cbv

/-- Before the first hour stands the default. No hour lies as far behind as a word can say, and an
integer of more than 32 bits in its place is refused. -/
theorem Partition.sort_shifts_tides :
    tides.sort [⟨"hour", true⟩] 5 = .ok tidesView ∧
      (∃ out, (Function.lag "height" 1 (.int 7)).compute tidesView .running = .ok out ∧
        out.cell 1 = .int 7 ∧ out.cell 2 = .null ∧ out.cell 0 = .int (-40)) ∧
      (Function.lead "height" 18446744073709551615 (.int 2147483648)).compute tidesView .running =
        .error (.conversion .int64 .int32) := by
  have hsort : tides.sort [⟨"hour", true⟩] 5 = .ok tidesView := rfl
  have hheights : tides.table.column "height" = .ok (.typed tideHeights) := rfl
  obtain ⟨hsize, slot0, slot1, slot2⟩ := tidesView_slots
  obtain ⟨lag, -⟩ := sort_shifts hsort hheights 1 (.int 7) .running
  obtain ⟨-, lead⟩ :=
    sort_shifts hsort hheights 18446744073709551615 (.int 2147483648) .running
  refine ⟨hsort, ?_, lead.refuses ⟨by rw [hsize]; decide, by decide, by decide⟩⟩
  have accepted : ¬ (0 < tidesView.size ∧ (-(1 : Nat) : Int) ≠ 0 ∧
      tideHeights.kind.fits (.int 7) = false) := fun h => absurd h.2.2 (by decide)
  obtain ⟨out, hout, -, -, cells⟩ := lag.reads accepted
  rw [hsize] at cells
  have first := cells 0 (by decide)
  have second := cells 1 (by decide)
  have third := cells 2 (by decide)
  rw [slot0] at first
  rw [slot1] at second
  rw [slot2] at third
  exact ⟨out, hout, first.trans (by cbv), second.trans (by cbv), third.trans (by cbv)⟩

end WindowQuery
