import WindowQuery.Proofs.Frame.Covers

/-!
# Membership in ROWS frames

A bound of a ROWS frame lies at a **displacement** from the current row (`Bound.displacement`): a
whole number of positions for a bound at a distance, and infinitely many for an unbounded one. The
frame holds the positions of its view between the two displacements (`View.mem_frameAt_rows`). That
leaves no bound to be treated apart: a start after everything lies infinitely far ahead, an end
before everything infinitely far behind, and where the end is displaced less than the start nothing
lies between them.
-/

namespace WindowQuery

/-! ### Counted bounds -/

namespace Offset

/-- The whole number of an offset that has one. -/
def distance : Offset → Int
  | int n => n.toInt
  | float _ => 0

theorem count_int {n : Int64} (hn : 0 ≤ n.toInt) : (Offset.int n).count = .ok n.toInt.toNat := by
  simp [count, count?, hn]

end Offset

/-- Whole numbers, with an infinite one at either end. -/
abbrev ExtendedInt := WithBot (WithTop Int)

namespace Bound

/-- The offset of the bound, if it has one, is an integer that is not negative. -/
def Counted (b : Bound) : Prop := ∀ o ∈ b.offset?, ∃ n : Int64, o = .int n ∧ 0 ≤ n.toInt

/-- The offset of a counted bound is read as a number. -/
theorem Counted.exists_count {b : Bound} (hb : b.Counted) {o : Offset} (ho : o ∈ b.offset?) :
    ∃ n : Nat, o.count = .ok n ∧ o.distance = n := by
  obtain ⟨n, rfl, hn⟩ := hb o ho
  exact ⟨_, Offset.count_int hn, (Int.toNat_of_nonneg hn).symm⟩

theorem Counted.int {b : Bound} (hb : b.Counted) : ∀ o ∈ b.offset?, ∃ n, o = .int n :=
  fun o ho => (hb o ho).imp fun _ h => h.1

/-- How far ahead of the current row a bound lies: its **displacement**. -/
def displacement : Bound → ExtendedInt
  | unboundedPreceding => ⊥
  | preceding o => ((-o.distance : Int) : WithTop Int)
  | currentRow => 0
  | following o => (o.distance : WithTop Int)
  | unboundedFollowing => ⊤

end Bound

namespace Frame

/-- The offsets of the frame are integers that are not negative. -/
def Counted (f : Frame) : Prop := ∀ o ∈ f.offsets, ∃ n : Int64, o = .int n ∧ 0 ≤ n.toInt

/-- These are the offsets that can be read as a number of rows. -/
theorem counted_iff {f : Frame} : f.Counted ↔ ∀ o ∈ f.offsets, o.count?.isSome = true := by
  refine forall₂_congr fun o _ => ?_
  cases o <;> simp [Offset.count?]

instance (f : Frame) : Decidable f.Counted := decidable_of_iff _ counted_iff.symm

variable {f : Frame}

theorem Counted.start (hf : f.Counted) : f.start.Counted :=
  fun o ho => hf o (mem_offsets_start ho)

theorem Counted.stop (hf : f.Counted) : f.stop.Counted :=
  fun o ho => hf o (mem_offsets_stop ho)

end Frame

/-! ### Both ends of a ROWS frame -/

namespace View

/-- No position lies beyond everything. -/
private theorem not_top_le (q : Nat) : ¬ ⊤ ≤ (q : ExtendedInt) :=
  not_le_of_gt (WithBot.coe_lt_coe.mpr (WithTop.coe_lt_top (q : Int)))

section

variable (v : View) (i : Nat) {b : Bound} (hb : b.Counted)
include hb

/-- **The start of a ROWS frame** lies at the displacement of its bound. -/
theorem rowsStart_eq : ∃ start, v.rowsStart i b = .ok start ∧
    ∀ q < v.size, start ≤ q ↔ (i : ExtendedInt) + b.displacement ≤ q := by
  cases b with
  | unboundedPreceding => exact ⟨0, rfl, by simp [Bound.displacement]⟩
  | preceding o =>
    obtain ⟨n, hn, hdistance⟩ := hb.exists_count rfl
    refine ⟨i - n, by rw [rowsStart, hn]; rfl, fun q _ => ?_⟩
    rw [Bound.displacement, hdistance]
    norm_cast
    omega
  | currentRow => exact ⟨i, rfl, by simp [Bound.displacement]⟩
  | following o =>
    obtain ⟨n, hn, hdistance⟩ := hb.exists_count rfl
    refine ⟨i + n, by rw [rowsStart, hn]; rfl, fun q _ => ?_⟩
    rw [Bound.displacement, hdistance]
    norm_cast
  | unboundedFollowing =>
    refine ⟨v.size, rfl, fun q hq => iff_of_false (by omega) ?_⟩
    exact not_top_le q

/-- **The end of a ROWS frame** comes after the displacement of its bound. -/
theorem rowsStop_eq : ∃ stop, v.rowsStop i b = .ok stop ∧
    ∀ q < v.size, q < stop ↔ (q : ExtendedInt) ≤ i + b.displacement := by
  cases b with
  | unboundedPreceding => exact ⟨0, rfl, by simp [Bound.displacement]⟩
  | preceding o =>
    obtain ⟨n, hn, hdistance⟩ := hb.exists_count rfl
    refine ⟨i + 1 - n, by rw [rowsStop, hn]; rfl, fun q _ => ?_⟩
    rw [Bound.displacement, hdistance]
    norm_cast
    omega
  | currentRow => exact ⟨i + 1, rfl, by simp [Bound.displacement]⟩
  | following o =>
    obtain ⟨n, hn, hdistance⟩ := hb.exists_count rfl
    refine ⟨i + n + 1, by rw [rowsStop, hn]; rfl, fun q _ => ?_⟩
    rw [Bound.displacement, hdistance]
    norm_cast
    omega
  | unboundedFollowing => exact ⟨v.size, rfl, fun q hq => iff_of_true hq le_top⟩

end

/-- **ROWS frames by membership.** With offsets that are counted every frame resolves, inside its
view, and holds the positions between the displacements of its bounds. -/
theorem mem_frameAt_rows {v : View} {f : Frame} (hunit : f.unit = .rows) (hf : f.Counted) {i : Nat}
    (hi : i < v.size) :
    ∃ span, v.frameAt i f = .ok span ∧ span.start ≤ span.stop ∧ span.stop ≤ v.size ∧
      ∀ q < v.size, q ∈ span ↔
        (i : ExtendedInt) + f.start.displacement ≤ q ∧ (q : ExtendedInt) ≤ i + f.stop.displacement := by
  obtain ⟨start, hstart, starts⟩ := v.rowsStart_eq i hf.start
  obtain ⟨stop, hstop, stops⟩ := v.rowsStop_eq i hf.stop
  have raw : v.rawFrameAt i f = .ok ⟨start, stop⟩ := by
    rw [rawFrameAt, hunit]
    exact ends_eq_ok.mpr ⟨hstart, hstop⟩
  obtain ⟨ordered, inside⟩ := v.clampFrame_le f ⟨start, stop⟩
  refine ⟨_, frameAt_eq_ok hi raw, ordered, inside, fun q hq => ?_⟩
  rw [mem_clampFrame_iff, Span.mem_iff, starts q hq, stops q hq]
  constructor
  · rintro ⟨-, -, between⟩
    exact between
  · rintro ⟨low, high⟩
    -- a bound that no position can meet would not leave `q` between the two
    refine ⟨⟨fun hafter => ?_, fun hbefore => ?_⟩, hq, low, high⟩
    · rw [hafter] at low
      exact not_top_le q low
    · rw [hbefore, Bound.displacement] at high
      simp at high

/-- Steps in the order in which they were taken. -/
private def stepsView : View := (Partition.mk ⟨[], []⟩ #[0, 1, 2, 3]).arrivalView

/-- A frame that would begin in front of all rows, and one that would begin behind them. -/
theorem mem_frameAt_rows_steps :
    (∃ span, stepsView.frameAt 1 ⟨.rows, .preceding (.int 3), .preceding (.int 1)⟩ = .ok span ∧
      span.start ≤ span.stop ∧ span.stop ≤ 4 ∧ ∀ q < 4, q ∈ span ↔ q = 0) ∧
    ∃ span, stepsView.frameAt 1 ⟨.rows, .following (.int Int64.maxValue), .unboundedFollowing⟩ =
        .ok span ∧
      span.start ≤ span.stop ∧ span.stop ≤ 4 ∧ ∀ q < 4, q ∉ span := by
  constructor
  · obtain ⟨span, hspan, ordered, inside, members⟩ := mem_frameAt_rows (v := stepsView)
      (f := ⟨.rows, .preceding (.int 3), .preceding (.int 1)⟩) rfl (by decide) (i := 1) (by decide)
    refine ⟨span, hspan, ordered, inside, fun q hq => (members q hq).trans ?_⟩
    have start : (Bound.preceding (.int 3)).displacement = ((-3 : Int) : WithTop Int) := rfl
    have stop : (Bound.preceding (.int 1)).displacement = ((-1 : Int) : WithTop Int) := rfl
    rw [start, stop]
    norm_cast
    omega
  · obtain ⟨span, hspan, ordered, inside, members⟩ := mem_frameAt_rows (v := stepsView)
      (f := ⟨.rows, .following (.int Int64.maxValue), .unboundedFollowing⟩) rfl (by decide) (i := 1)
      (by decide)
    refine ⟨span, hspan, ordered, inside, fun q hq hmem => ?_⟩
    have start : (Bound.following (.int Int64.maxValue)).displacement =
      ((9223372036854775807 : Int) : WithTop Int) := rfl
    have low := ((members q hq).mp hmem).1
    rw [start] at low
    norm_cast at low
    omega

end View

end WindowQuery
