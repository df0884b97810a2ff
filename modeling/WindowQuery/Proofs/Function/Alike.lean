import WindowQuery.Evaluation
import WindowQuery.Proofs.Frame.Clamp
import WindowQuery.Proofs.Function.Segment
import WindowQuery.Proofs.Partition.Alike

/-!
# What a function reads

A function reads the cells of its input column at the positions of its view, and the order and the
frames of these positions. Over alike partitions that are arranged in the same way it computes the
same segment, or fails with the same error (`View.compute_onto`), and since alike partitions are
arranged in the same way, so does a whole expression (`Expression.overRows_eq`).
-/

namespace WindowQuery

namespace View

/-- Filling a view asks for its positions only. -/
theorem fill_congr {v : View} {name : String} {kind : Kind}
    {f g : Nat → Except QueryError (Option Cell)} (h : ∀ p < v.size, f p = g p) :
    v.fill name kind f = v.fill name kind g := by
  refine foldlM_congr (fun p hp out => ?_) _
  rw [h p (List.mem_range.mp hp)]

/-- A position before one of the view is one of the view. -/
theorem before?_lt {v : View} {p offset b : Nat} (hp : p < v.size) (hb : b ∈ before? p offset) :
    b < v.size := by
  unfold before? at hb
  split at hb
  case isTrue =>
    obtain rfl := Option.some.inj hb
    omega
  case isFalse => cases hb

theorem after?_lt {v : View} {p offset b : Nat} (hb : b ∈ v.after? p offset) : b < v.size := by
  unfold after? at hb
  split at hb
  case isTrue hlt =>
    obtain rfl := Option.some.inj hb
    exact hlt
  case isFalse => cases hb

section

variable {v : View} {q : Partition} (hv : v.Complete)
include hv

/-- The cells of a source at positions are those of its slots. -/
theorem cellAt_onto {s s' : Source} (hs : v.partition.ReadAlike q s s') {p : Nat}
    (hp : p < v.size) : v.cellAt s p = (v.onto q).cellAt s' p :=
  hs.cell (v.slotAt p) (hv.slotAt_lt hp)

theorem map_cellAt_onto {α : Type} {s s' : Source} (hs : v.partition.ReadAlike q s s')
    (g : Cell → α) :
    (v.positions.map fun p => g (v.cellAt s p)) =
      (v.onto q).positions.map fun p => g ((v.onto q).cellAt s' p) := by
  refine List.map_congr_left ?_
  intro p hp
  rw [cellAt_onto hv hs (List.mem_range.mp hp)]

/-- Aggregates read cells and frames only, and so agree over alike partitions. -/
theorem computeOver_onto {s s' : Source} (hs : v.partition.ReadAlike q s s') (a : Aggregate)
    (α : Type) [Numeric α] (f : Frame) :
    a.computeOver α s v f = a.computeOver α s' (v.onto q) f := by
  have numbers : (v.numbers s : Array (Option α)) = (v.onto q).numbers s' :=
    congrArg List.toArray (map_cellAt_onto hv hs Numeric.ofCell?)
  unfold Aggregate.computeOver
  rw [numbers]
  refine bind_congr ?_
  intro spans
  cases a <;> rfl

/-- Counts read cells and frames only, and so agree over alike partitions. -/
theorem countCells_onto {s s' : Source} (hs : v.partition.ReadAlike q s s') (f : Frame) :
    v.countCells s f = (v.onto q).countCells s' f := by
  have nulls : (v.positions.map fun p => s.isNull (v.rowAt p)) =
      (v.onto q).positions.map fun p => s'.isNull ((v.onto q).rowAt p) := by
    simp only [Source.isNull_eq]
    exact map_cellAt_onto hv hs Cell.isNull
  unfold countCells
  rw [nulls]
  rfl

variable (h : v.partition.Alike q)
include h

/-- Cells of other positions of the view. -/
theorem shifted_onto (name column : String) (default : Cell) {target : Nat → Option Nat}
    (htarget : ∀ p < v.size, ∀ b ∈ target p, b < v.size) :
    v.shifted name column default target = (v.onto q).shifted name column default target := by
  refine h.column_bind column ?_
  intro s s' hs
  rw [hs.kind]
  refine fill_congr ?_
  intro p hp
  cases hb : target p with
  | none => rfl
  | some b =>
    dsimp only
    rw [cellAt_onto hv hs (htarget p hp b hb)]

/-- The cell of one position of the view, where there are positions at all. -/
theorem constant_onto (name column : String) {target : Nat} (htarget : 0 < v.size → target < v.size) :
    v.constant name column target = (v.onto q).constant name column target := by
  refine h.column_bind column ?_
  intro s s' hs
  rw [hs.kind]
  refine fill_congr ?_
  intro p hp
  rw [cellAt_onto hv hs (htarget (Nat.zero_lt_of_lt hp))]

/-- Cells in the frames of the view. -/
theorem nth_onto (column : String) (place : Nat) (f : Frame) :
    v.nth column place f = (v.onto q).nth column place f := by
  refine h.column_bind column ?_
  intro s s' hs
  rw [hs.kind]
  refine fill_congr ?_
  intro p hp
  have same : (v.onto q).frameAt p f = v.frameAt p f := rfl
  rw [same]
  cases hspan : v.frameAt p f with
  | error e => rfl
  | ok span =>
    -- a place in the frame is a position of the view
    have inside : span.start + (place - 1) < span.stop →
        v.cellAt s (span.start + (place - 1)) = (v.onto q).cellAt s' (span.start + (place - 1)) := by
      intro hlt
      exact cellAt_onto hv hs (Nat.lt_of_lt_of_le hlt (frameAt_le hspan).2)
    by_cases hlt : span.start + (place - 1) < span.stop
    · simp only [bind, Except.bind, hlt, if_true, inside hlt]
    · simp only [bind, Except.bind, hlt, if_false]

/-- **A function computes the same over alike partitions** arranged in the same way. -/
theorem compute_onto (fn : Function) (f : Frame) : fn.compute v f = fn.compute (v.onto q) f := by
  cases fn with
  | aggregate a column =>
    refine h.column_bind column ?_
    intro s s' hs
    rw [hs.kind]
    cases s'.kind with
    | int32 => exact computeOver_onto hv hs a Int32 f
    | int64 => exact computeOver_onto hv hs a Int64 f
    | float64 => exact computeOver_onto hv hs a Float f
    | null | text | boolean => rfl
  | count column => exact h.column_bind column fun s s' hs => countCells_onto hv hs f
  | countRows => rfl
  | lag column offset default =>
    exact shifted_onto hv h "lag" column default fun p hp b hb => before?_lt hp hb
  | lead column offset default =>
    exact shifted_onto hv h "lead" column default fun p _ b hb => after?_lt hb
  | firstValue column => exact constant_onto hv h "first_value" column id
  | lastValue column =>
    exact constant_onto hv h "last_value" column fun hpos => Nat.sub_lt hpos Nat.one_pos
  | nthValue column place => exact bind_congr fun _ => nth_onto hv h column place f
  | rowNumber => rfl
  | ranking r => cases r <;> rfl
  | ntile buckets => rfl

end

end View

/-- **An expression has one value over alike partitions.** -/
theorem Expression.overRows_eq {t t' : Table} {rows rows' : Array Nat}
    (h : Partition.Alike ⟨t, rows⟩ ⟨t', rows'⟩) (e : Expression) (schedule : Schedule) :
    e.overRows schedule t rows = e.overRows schedule t' rows' := by
  unfold overRows
  rw [h.sort_eq]
  cases hsort : Partition.sort ⟨t, rows⟩ e.window.orderBy schedule.sortThreshold with
  | error _ => rfl
  | ok v =>
    have hpartition : v.partition = ⟨t, rows⟩ := (Partition.sort_eq_ok hsort).1
    rw [← hpartition] at h
    exact View.compute_onto (Partition.complete_of_sort hsort) h _ _

/-- Alike partitions have input columns of one kind. -/
theorem Partition.Alike.inputKind_eq {p q : Partition} (h : p.Alike q) (fn : Function) :
    fn.inputKind p.table = fn.inputKind q.table := by
  unfold Function.inputKind
  cases fn.inputColumn? with
  | none => rfl
  | some name =>
    change p.table.column name >>= (fun s => .ok s.kind) =
      q.table.column name >>= fun s => .ok s.kind
    exact h.column_bind name fun s s' hs => by rw [hs.kind]

end WindowQuery
