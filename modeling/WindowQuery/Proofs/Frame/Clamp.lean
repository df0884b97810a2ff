import WindowQuery.Proofs.Steps
import WindowQuery.View.Frame

/-!
# Frames inside their view

Whatever the two ends of a frame come to, cutting it to the view leaves a span that does not end
before it starts and does not reach past the view (`View.frameAt_le`). Positions of the view are
only lost to a start after everything or an end before everything (`View.mem_clampFrame_iff`).
-/

namespace WindowQuery

/-- The frame does not start after everything or end before everything: it is **proper**. -/
structure Frame.Proper (f : Frame) : Prop where
  start : f.start ≠ .unboundedFollowing
  stop : f.stop ≠ .unboundedPreceding

namespace View

/-- A cut frame starts where the raw one does, or behind everything. -/
theorem start_clampFrame (v : View) (f : Frame) (raw : Span) : (v.clampFrame f raw).start =
    if f.start = .unboundedFollowing then v.size else min raw.start v.size := by
  rw [clampFrame, apply_ite Span.start]
  exact ite_self _

/-- It stops where the raw one does, or before everything, but not before it starts. -/
theorem stop_clampFrame (v : View) (f : Frame) (raw : Span) : (v.clampFrame f raw).stop =
    max (v.clampFrame f raw).start
      (if f.stop = .unboundedPreceding then 0 else min raw.stop v.size) := by
  rw [start_clampFrame]
  unfold clampFrame
  dsimp only
  generalize (if f.start = .unboundedFollowing then v.size else min raw.start v.size) = low
  generalize (if f.stop = .unboundedPreceding then 0 else min raw.stop v.size) = high
  split <;> dsimp only <;> omega

/-- A frame that is cut to the view lies inside of it. -/
theorem clampFrame_le (v : View) (f : Frame) (raw : Span) :
    (v.clampFrame f raw).start ≤ (v.clampFrame f raw).stop ∧
      (v.clampFrame f raw).stop ≤ v.size := by
  have start : (v.clampFrame f raw).start ≤ v.size := by
    rw [start_clampFrame]
    split <;> omega
  have stop : (if f.stop = .unboundedPreceding then 0 else min raw.stop v.size) ≤ v.size := by
    split <;> omega
  rw [stop_clampFrame]
  omega

/-- A frame is what the unit makes of both ends, cut to the view. -/
theorem frameAt_eq_ok {v : View} {p : Nat} {f : Frame} {raw : Span} (hp : p < v.size)
    (h : v.rawFrameAt p f = .ok raw) : v.frameAt p f = .ok (v.clampFrame f raw) := by
  rw [frameAt, if_neg (by omega), h]
  rfl

/-- The ends of a proper ROWS frame are cut to the view one by one. -/
theorem frameAt_rows_eq_ok {v : View} {p : Nat} {f : Frame} (hunit : f.unit = .rows) (hf : f.Proper)
    (hp : p < v.size) {start stop : Nat} (hstart : v.rowsStart p f.start = .ok start)
    (hstop : v.rowsStop p f.stop = .ok stop) :
    v.frameAt p f = .ok ⟨min start v.size, max (min start v.size) (min stop v.size)⟩ := by
  have raw : v.rawFrameAt p f = .ok ⟨start, stop⟩ := by
    rw [rawFrameAt, hunit]
    dsimp only
    rw [hstart, hstop]
    rfl
  have hlow : (v.clampFrame f ⟨start, stop⟩).start = min start v.size := by
    rw [start_clampFrame, if_neg hf.start]
  have hhigh : (v.clampFrame f ⟨start, stop⟩).stop =
      max (min start v.size) (min stop v.size) := by
    rw [stop_clampFrame, hlow, if_neg hf.stop]
  rw [frameAt_eq_ok hp raw, ← hhigh, ← hlow]

/-- The running frame of a position ends with it. -/
theorem frameAt_running {v : View} {p : Nat} (hp : p < v.size) :
    v.frameAt p .running = .ok ⟨0, p + 1⟩ := by
  have cut : Span.mk (min 0 v.size) (max (min 0 v.size) (min (p + 1) v.size)) = ⟨0, p + 1⟩ := by
    rw [Nat.zero_min, Nat.zero_max, Nat.min_eq_left hp]
  rw [← cut]
  exact frameAt_rows_eq_ok rfl ⟨by decide, by decide⟩ hp rfl rfl

/-- The frame of the whole partition is the same for all positions. -/
theorem frameAt_wholePartition {v : View} {p : Nat} (hp : p < v.size) :
    v.frameAt p .wholePartition = .ok ⟨0, v.size⟩ := by
  have cut : Span.mk (min 0 v.size) (max (min 0 v.size) (min v.size v.size)) = ⟨0, v.size⟩ := by
    rw [Nat.zero_min, Nat.zero_max, Nat.min_self]
  rw [← cut]
  exact frameAt_rows_eq_ok rfl ⟨by decide, by decide⟩ hp rfl rfl

/-- **Every frame lies inside its view.** -/
theorem frameAt_le {v : View} {p : Nat} {f : Frame} {span : Span} (h : v.frameAt p f = .ok span) :
    span.start ≤ span.stop ∧ span.stop ≤ v.size := by
  unfold frameAt at h
  split at h
  · cases h
    exact ⟨Nat.le_refl _, Nat.zero_le _⟩
  · obtain ⟨raw, -, rfl⟩ := map_eq_ok.mp h
    exact v.clampFrame_le f raw

theorem lt_of_mem_frameAt {v : View} {p q : Nat} {f : Frame} {span : Span}
    (h : v.frameAt p f = .ok span) (hq : q ∈ span) : q < v.size :=
  Nat.lt_of_lt_of_le hq.2 (frameAt_le h).2

/-- Cutting a frame to the view takes away the positions outside of it, and all positions of a
frame that is not proper. -/
theorem mem_clampFrame_iff {v : View} {f : Frame} {raw : Span} {q : Nat} :
    q ∈ v.clampFrame f raw ↔ f.Proper ∧ q < v.size ∧ q ∈ raw := by
  have start (hq : q < v.size) :
      (if f.start = .unboundedFollowing then v.size else min raw.start v.size) ≤ q ↔
        f.start ≠ .unboundedFollowing ∧ raw.start ≤ q := by
    split
    case isTrue h => exact iff_of_false (Nat.not_le.mpr hq) fun hproper => hproper.1 h
    case isFalse h => rw [and_iff_right h]; omega
  have stop : q < (if f.stop = .unboundedPreceding then 0 else min raw.stop v.size) ↔
      f.stop ≠ .unboundedPreceding ∧ q < v.size ∧ q < raw.stop := by
    split
    case isTrue h => exact iff_of_false (Nat.not_lt_zero q) fun hproper => hproper.1 h
    case isFalse h => rw [and_iff_right h]; omega
  -- an end that comes before the start leaves no position, and there is none between them
  have cut : q ∈ v.clampFrame f raw ↔
      (if f.start = .unboundedFollowing then v.size else min raw.start v.size) ≤ q ∧
        q < if f.stop = .unboundedPreceding then 0 else min raw.stop v.size := by
    rw [Span.mem_iff, stop_clampFrame, start_clampFrame]
    omega
  rw [cut, stop, Span.mem_iff]
  constructor
  · rintro ⟨hstart, hstop, hq, hlast⟩
    obtain ⟨hproper, hfirst⟩ := (start hq).mp hstart
    exact ⟨⟨hproper, hstop⟩, hq, hfirst, hlast⟩
  · rintro ⟨hproper, hq, hfirst, hlast⟩
    exact ⟨(start hq).mpr ⟨hproper.start, hfirst⟩, hproper.stop, hq, hlast⟩

theorem mem_clampFrame {v : View} {f : Frame} {raw : Span} {q : Nat}
    (hstart : f.start ≠ .unboundedFollowing) (hstop : f.stop ≠ .unboundedPreceding) :
    q ∈ v.clampFrame f raw ↔ q < v.size ∧ q ∈ raw :=
  mem_clampFrame_iff.trans (and_iff_right ⟨hstart, hstop⟩)

end View

end WindowQuery
