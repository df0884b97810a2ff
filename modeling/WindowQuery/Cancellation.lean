import WindowQuery.Evaluation

/-!
# Cancellation

A pass can be cancelled through a handle. Handles refer to flags, and any number of them may
share one: what is written through one is seen through all of them. An engine evaluates under one
handle and refuses to start once its flag is set.

`Engine.pass` carries an evaluation out among the flags, which it could read and write at every
step. It looks at its own before it starts and again before every partition. While nobody else
writes, this comes to one look and no write: the flags stay, and the result is that of
`Engine.evaluate`.

`Session` runs any sequence of creations, writes and evaluations.
-/

namespace WindowQuery

/-- A reference to a flag. -/
structure Handle where
  flag : Nat
deriving DecidableEq, Repr

/-- The state of all flags. -/
structure Flags where
  states : Array Bool := #[]
deriving DecidableEq, Repr

namespace Flags

/-- Whether a flag is set. A flag that was never made is not. -/
def get (f : Flags) (flag : Nat) : Bool := f.states[flag]?.getD false

/-- Writes a flag. -/
def set (f : Flags) (flag : Nat) (state : Bool) : Flags := ⟨f.states.setIfInBounds flag state⟩

/-- A new flag that is not set, and a handle of its own. -/
def fresh (f : Flags) : Handle × Flags := (⟨f.states.size⟩, ⟨f.states.push false⟩)

/-- What a handle says: whether its flag is set. -/
def isCancelled (f : Flags) (h : Handle) : Bool := f.get h.flag

/-- Sets the flag of a handle, and with it that of every handle which shares the flag. -/
def cancel (f : Flags) (h : Handle) : Flags := f.set h.flag true

/-- Clears the flag, so that the handle can be used again. -/
def reset (f : Flags) (h : Handle) : Flags := f.set h.flag false

/-- Fails once the flag is set. -/
def check (f : Flags) (h : Handle) : Except QueryError Unit :=
  if f.isCancelled h then .error .cancelled else .ok ()

end Flags

/-! ### Work among flags -/

/-- Work that can read and write flags at every step. -/
abbrev Watched := ExceptT QueryError (StateM Flags)

namespace Flags

section

variable {α β : Type}

/-- The flags as some work leaves them, and what became of the work. -/
def during (f : Flags) (w : Watched α) : Flags × Except QueryError α :=
  let (result, f') := w.run.run f
  (f', result)

@[simp] theorem during_pure (f : Flags) (a : α) : f.during (pure a) = (f, .ok a) := rfl

@[simp] theorem during_get (f : Flags) : f.during MonadState.get = (f, .ok f) := rfl

@[simp] theorem during_ofExcept (f : Flags) (x : Except QueryError α) :
    f.during (MonadExcept.ofExcept x) = (f, x) := by cases x <;> rfl

/-- One piece of work after the other. -/
theorem during_bind (f : Flags) (w : Watched α) (next : α → Watched β) :
    f.during (w >>= next) =
      match f.during w with
      | (f', .ok a) => f'.during (next a)
      | (f', .error err) => (f', .error err) := by
  have run : f.during (w >>= next) = f.during (.mk (w.run >>= ExceptT.bindCont next)) := rfl
  rw [run, during, during]
  cases h : w.run.run f with
  | mk result f' => cases result <;> simp [ExceptT.bindCont, h] <;> rfl

end

end Flags

/-- Stops the work once the flag of the handle is set. -/
def Handle.watch (h : Handle) : Watched Unit := do
  MonadExcept.ofExcept ((← get).check h)

/-! ### Engines -/

/-- Evaluates expressions on a schedule and under a handle. -/
structure Engine where
  schedule : Schedule
  handle : Handle
deriving DecidableEq, Repr

namespace Engine

/-- An evaluation that looks at the flag of the engine once, as the flags are when it starts. -/
def evaluate (engine : Engine) (flags : Flags) (e : Expression) (t : Table) :
    Except QueryError Column :=
  e.evaluate engine.schedule (flags.isCancelled engine.handle) t

/-- Several evaluations in a row, all under the flags as they are at the start. -/
def evaluateAll (engine : Engine) (flags : Flags) (expressions : List Expression) (t : Table) :
    Except QueryError Table :=
  t.evaluateAll engine.schedule (flags.isCancelled engine.handle) expressions

/-- An evaluation among the flags, step by step. -/
def pass (engine : Engine) (e : Expression) (t : Table) : Watched Column := do
  MonadExcept.ofExcept e.check
  engine.handle.watch
  let kind ← MonadExcept.ofExcept (e.outputKind t)
  let partitions ← MonadExcept.ofExcept (t.partitions e.window.partitionBy)
  let segments ← partitions.mapM fun rows => do
    engine.handle.watch
    let segment ← MonadExcept.ofExcept (e.overRows engine.schedule t rows)
    return (rows, segment)
  MonadExcept.ofExcept ((Column.nulls e.displayName kind t.rows).gather segments)

end Engine

/-! ### Sessions -/

/-- Flags and the handles made so far. The first flags are shared with the outside. -/
structure Session where
  flags : Flags := {}
  handles : Array Handle := #[]
  shared : Nat := 0
deriving DecidableEq, Repr

/-- What can happen to handles and flags. Handles go by the order in which they were made, and
shared flags by their number. -/
inductive SessionStep where
  /-- A handle on a flag of its own. -/
  | fresh
  /-- Another handle on the flag of a handle. -/
  | clone (handle : Nat)
  /-- A handle on a flag shared from outside. -/
  | ofFlag (flag : Nat)
  /-- The handle of an engine that was given a handle. -/
  | ofEngine (handle : Nat)
  | write (flag : Nat) (state : Bool)
  | cancel (handle : Nat)
  | reset (handle : Nat)
  /-- A pass by an engine that was given a handle. -/
  | evaluate (handle : Nat) (schedule : Schedule) (expression : Expression) (table : Table)
deriving DecidableEq

namespace Session

/-- A session with a number of shared flags, none of them set, and no handle. -/
def start (shared : Nat) : Session := { flags := ⟨Array.replicate shared false⟩, shared }

/-- The handle made at a place in the order, if there is one. -/
def handle? (s : Session) (i : Nat) : Option Handle := s.handles[i]?

/-- The session with one more handle. -/
def give (s : Session) (h : Handle) : Session := { s with handles := s.handles.push h }

/-- The session after a step. A step that names no handle or no shared flag changes nothing. -/
def step (s : Session) : SessionStep → Session
  | .fresh =>
    let (h, flags) := s.flags.fresh
    Session.give { s with flags } h
  | .clone i => (s.handle? i).elim s s.give
  | .ofFlag flag => if flag < s.shared then s.give ⟨flag⟩ else s
  | .ofEngine i => (s.handle? i).elim s fun h => s.give (Engine.mk Schedule.standard h).handle
  | .write flag state =>
    if flag < s.shared then { s with flags := s.flags.set flag state } else s
  | .cancel i => (s.handle? i).elim s fun h => { s with flags := s.flags.cancel h }
  | .reset i => (s.handle? i).elim s fun h => { s with flags := s.flags.reset h }
  | .evaluate i schedule e t => (s.handle? i).elim s fun h =>
    { s with flags := (s.flags.during ((Engine.mk schedule h).pass e t)).1 }

/-- The session after a sequence of steps. -/
def run (s : Session) (steps : List SessionStep) : Session := steps.foldl step s

/-- What each handle says, in the order in which they were made. -/
def states (s : Session) : List Bool := s.handles.toList.map s.flags.isCancelled

end Session

end WindowQuery
