import WindowQuery.Proofs.Column.Writing
import WindowQuery.Proofs.Evaluation.Gather
import WindowQuery.Proofs.Frame.Failing

/-!
# Work that runs to its end

A pass is called off from outside only. The work of a pass, from the checks to the last write, has
errors of its own and never reports a cancellation: an expression that is not cancelled either has
a value or fails with an error of its own (`Expression.unstopped_evaluate`).

The lemmas follow the definitions of an evaluation, one for each.
-/

namespace WindowQuery

/-- Work is **unstopped** when it fails with errors of its own only. -/
abbrev Unstopped {α : Type} (work : Except QueryError α) : Prop := FailsOnly (· ≠ .cancelled) work

/-! ### Checks -/

theorem Offset.unstopped_count (o : Offset) : Unstopped o.count := by
  rw [count]
  split <;> simp

theorem Frame.unstopped_check (f : Frame) : Unstopped f.check := by
  refine failsOnly_forM (fun o => ?_) _
  unfold Offset.check
  split
  · exact o.unstopped_count.map _
  · exact o.unstopped_count.map _
  · split <;> simp

theorem Window.unstopped_check (w : Window) : Unstopped w.check := by
  rw [check]
  split
  · exact Frame.unstopped_check _
  · exact failsOnly_ok ()

theorem Function.unstopped_check (fn : Function) : Unstopped fn.check := by
  unfold check
  split <;> simp

theorem Expression.unstopped_check (e : Expression) : Unstopped e.check :=
  e.window.unstopped_check.bind fun _ => e.function.unstopped_check

/-! ### Columns and partitions -/

namespace Table

variable (t : Table)

theorem unstopped_column (name : String) : Unstopped (t.column name) := by
  rw [column]
  split <;> simp

theorem unstopped_columnsOf (names : List String) : Unstopped (t.columnsOf names) :=
  failsOnly_mapM t.unstopped_column names

theorem unstopped_partitions (names : List String) : Unstopped (t.partitions names) := by
  rw [partitions_eq]
  split_ifs
  · exact failsOnly_ok _
  · exact failsOnly_ok _
  · exact (t.unstopped_columnsOf names).map _

end Table

theorem Expression.unstopped_outputKind (e : Expression) (t : Table) :
    Unstopped (e.outputKind t) := by
  rw [outputKind]
  split
  · exact (t.unstopped_column _).bind fun _ => failsOnly_ok _
  · exact failsOnly_ok _

theorem Partition.unstopped_sort (p : Partition) (sortKeys : List SortKey) (threshold : Nat) :
    Unstopped (p.sort sortKeys threshold) := by
  rw [sort]
  split
  · exact failsOnly_ok _
  · exact (p.table.unstopped_columnsOf _).bind fun _ => failsOnly_ok _

/-! ### Writes -/

namespace Column

variable (c : Column)

theorem unstopped_set (row : Nat) (value : Cell) : Unstopped (c.set row value) := by
  intro err h
  by_cases hrow : row < c.size
  · obtain ⟨-, rfl⟩ := set_eq_error hrow h
    simp
  · rw [set, if_pos (Nat.not_lt.mp hrow)] at h
    cases h
    simp

theorem unstopped_setAll (writes : List (Nat × Cell)) : Unstopped (c.setAll writes).2 := by
  induction writes generalizing c with
  | nil => exact failsOnly_ok ()
  | cons write rest ih =>
    rw [setAll]
    cases hset : c.set write.1 write.2 with
    | ok c' => exact ih c'
    | error err => exact failsOnly_error_iff.mpr (c.unstopped_set _ _ err hset)

theorem unstopped_scatter (segment : Column) (targets : List Nat) :
    Unstopped (c.scatter segment targets).2 := by
  unfold scatter
  split
  · simp
  split
  · simp
  split
  · exact failsOnly_ok ()
  · exact c.unstopped_setAll _

theorem unstopped_gather (segments : List (Array Nat × Column)) :
    Unstopped (c.gather segments) := by
  induction segments generalizing c with
  | nil => exact failsOnly_ok c
  | cons x rest ih =>
    rw [gather]
    have scattered := c.unstopped_scatter x.2 x.1.toList
    split
    case h_1 c' _ => exact ih c'
    case h_2 err h =>
      rw [h] at scattered
      exact failsOnly_error_iff.mpr (scattered err rfl)

end Column

/-! ### Functions over a view -/

namespace View

variable (v : View)

theorem unstopped_frameAt (p : Nat) (f : Frame) : Unstopped (v.frameAt p f) := by
  have raw : Unstopped (v.rawFrameAt p f) := fun err h => by
    cases rawFrameAt_eq_error.mp h <;> simp
  rw [frameAt]
  split
  · exact failsOnly_ok _
  · exact raw.map _

theorem unstopped_frames (f : Frame) : Unstopped (v.frames f) :=
  failsOnly_mapM (fun p => v.unstopped_frameAt p f) _

theorem unstopped_fill {cellFor : Nat → Except QueryError (Option Cell)}
    (h : ∀ p, Unstopped (cellFor p)) (name : String) (kind : Kind) :
    Unstopped (v.fill name kind cellFor) := by
  refine failsOnly_foldlM (fun out p => (h p).bind fun given => ?_) _ _
  cases given with
  | none => exact failsOnly_ok out
  | some c => exact out.unstopped_set _ c

theorem unstopped_shifted (name column : String) (default : Cell) (target : Nat → Option Nat) :
    Unstopped (v.shifted name column default target) := by
  refine (v.partition.table.unstopped_column column).bind fun source => ?_
  refine v.unstopped_fill (fun p => ?_) name source.kind
  cases target p <;> simp

theorem unstopped_constant (name column : String) (target : Nat) :
    Unstopped (v.constant name column target) :=
  (v.partition.table.unstopped_column column).bind fun source =>
    v.unstopped_fill (fun _ => failsOnly_ok _) name source.kind

theorem unstopped_nth (column : String) (place : Nat) (f : Frame) :
    Unstopped (v.nth column place f) :=
  (v.partition.table.unstopped_column column).bind fun source =>
    v.unstopped_fill (fun p => (v.unstopped_frameAt p f).bind fun _ => failsOnly_ok _) _ source.kind

end View

theorem Aggregate.unstopped_compute (a : Aggregate) (column : String) (v : View) (f : Frame) :
    Unstopped (a.compute column v f) := by
  have summed (α : Type) [Numeric α] source : Unstopped (a.computeOver α source v f) :=
    (v.unstopped_frames f).bind fun _ => failsOnly_ok _
  refine (v.partition.table.unstopped_column column).bind fun source => ?_
  split
  · exact summed Int32 source
  · exact summed Int64 source
  · exact summed Float source
  · simp

theorem Function.unstopped_compute (fn : Function) (v : View) (f : Frame) :
    Unstopped (fn.compute v f) := by
  cases fn with
  | aggregate a column => exact a.unstopped_compute column v f
  | count column =>
    exact (v.partition.table.unstopped_column column).bind fun _ =>
      (v.unstopped_frames f).bind fun _ => failsOnly_ok _
  | countRows => exact (v.unstopped_frames f).bind fun _ => failsOnly_ok _
  | lag => exact v.unstopped_shifted _ _ _ _
  | lead => exact v.unstopped_shifted _ _ _ _
  | firstValue => exact v.unstopped_constant _ _ _
  | lastValue => exact v.unstopped_constant _ _ _
  | nthValue => exact (Function.unstopped_check _).bind fun _ => v.unstopped_nth _ _ f
  | rowNumber => exact failsOnly_ok _
  | ranking => exact failsOnly_ok _
  | ntile => exact (Function.unstopped_check _).bind fun _ => failsOnly_ok _

/-! ### Evaluations -/

namespace Expression

variable (e : Expression) (schedule : Schedule) (t : Table)

theorem unstopped_overRows (rows : Array Nat) : Unstopped (e.overRows schedule t rows) :=
  (Partition.unstopped_sort _ _ _).bind fun v => e.function.unstopped_compute v e.window.frame

/-- **An evaluation** that is not cancelled does not report a cancellation. -/
theorem unstopped_evaluate : Unstopped (e.evaluate schedule false t) := by
  rw [evaluate_eq]
  refine e.unstopped_check.bind fun _ => (e.unstopped_outputKind t).bind fun kind => ?_
  refine (t.unstopped_partitions _).bind fun partitions => FailsOnly.bind ?_ fun segments => ?_
  · exact failsOnly_mapM (fun rows => (e.unstopped_overRows schedule t rows).map _) partitions
  · exact Column.unstopped_gather _ segments

end Expression

end WindowQuery
