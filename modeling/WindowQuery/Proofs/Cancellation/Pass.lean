import WindowQuery.Cancellation
import WindowQuery.Proofs.Evaluation.Unstopped

/-!
# A pass among flags

A pass looks at the flag of its engine and writes none. It therefore leaves the flags as they are,
and looking again before every partition changes nothing: what becomes of the pass is what becomes
of the evaluation under the flag as it is found (`Engine.during_pass`).
-/

namespace WindowQuery

namespace Flags

variable {f : Flags} {α β : Type}

/-- Work that leaves the flags, followed by work that leaves the flags. -/
theorem during_bind_eq {w : Watched α} {next : α → Watched β} {x : Except QueryError α}
    {y : α → Except QueryError β} (hw : f.during w = (f, x))
    (hnext : ∀ a, f.during (next a) = (f, y a)) : f.during (w >>= next) = (f, x >>= y) := by
  rw [during_bind, hw]
  cases x with
  | error err => rfl
  | ok a => exact hnext a

/-- Work that leaves the flags as they are can be done item by item. -/
theorem during_mapM {w : α → Watched β} {x : α → Except QueryError β}
    (hw : ∀ a, f.during (w a) = (f, x a)) (as : List α) :
    f.during (as.mapM w) = (f, as.mapM x) := by
  induction as with
  | nil => rfl
  | cons a as ih =>
    rw [List.mapM_cons, List.mapM_cons]
    exact during_bind_eq (hw a) fun b => during_bind_eq ih fun bs => rfl

theorem during_watch (f : Flags) (h : Handle) : f.during h.watch = (f, f.check h) := by
  simp [Handle.watch, during_bind]

end Flags

namespace Engine

variable (engine : Engine) (f : Flags) (e : Expression) (t : Table)

/-- The steps of a pass whose flags stay as they are. -/
theorem during_pass_eq_steps : f.during (engine.pass e t) =
    (f, e.check >>= fun _ => f.check engine.handle >>= fun _ => e.outputKind t >>= fun kind =>
      t.partitions e.window.partitionBy >>= fun partitions =>
        (partitions.mapM fun rows => f.check engine.handle >>= fun _ =>
          (e.overRows engine.schedule t rows).map fun segment => (rows, segment)) >>=
          (Column.nulls e.displayName kind t.rows).gather) := by
  refine Flags.during_bind_eq (f.during_ofExcept _) fun _ => ?_
  refine Flags.during_bind_eq (f.during_watch _) fun _ => ?_
  refine Flags.during_bind_eq (f.during_ofExcept _) fun kind => ?_
  refine Flags.during_bind_eq (f.during_ofExcept _) fun partitions => ?_
  refine Flags.during_bind_eq (Flags.during_mapM (fun rows => ?_) partitions) fun segments => ?_
  · exact Flags.during_bind_eq (f.during_watch _) fun _ =>
      Flags.during_bind_eq (f.during_ofExcept _) fun segment => f.during_pure _
  · exact f.during_ofExcept _

/-- **A pass** leaves the flags, and what becomes of it is what becomes of the evaluation. -/
theorem during_pass : f.during (engine.pass e t) = (f, engine.evaluate f e t) := by
  rw [during_pass_eq_steps, evaluate, Flags.check]
  cases f.isCancelled engine.handle with
  | false => rfl
  | true => rfl

variable {e}

/-- **Cancelled** is an evaluation that passes its check exactly when the flag is set. -/
theorem evaluate_eq_cancelled_iff (hcheck : e.check = .ok ()) :
    engine.evaluate f e t = .error .cancelled ↔ f.isCancelled engine.handle = true := by
  rw [evaluate]
  cases f.isCancelled engine.handle with
  | false => exact iff_of_false (fun h => e.unstopped_evaluate engine.schedule t _ h rfl) nofun
  | true =>
    refine iff_of_true ?_ rfl
    rw [Expression.evaluate, hcheck]
    rfl

/-- Nothing else of the flags and the handle enters into an evaluation. -/
theorem evaluate_congr {f f' : Flags} {engine engine' : Engine}
    (hschedule : engine.schedule = engine'.schedule)
    (hflag : f.isCancelled engine.handle = f'.isCancelled engine'.handle) :
    engine.evaluate f e t = engine'.evaluate f' e t := by
  rw [evaluate, evaluate, hschedule, hflag]

end Engine

end WindowQuery
