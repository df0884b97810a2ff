import Mathlib.Logic.Function.Basic
import WindowQuery.Proofs.Cancellation.Pass

/-!
# Handles that share a flag

Handles refer to flags, and any number of them may refer to one. The **ledger** of a session keeps
book without looking at flags: it notes for each handle where its flag comes from, and lists the
writes in order. A handle on a flag of its own begins a new line; one that is made from another
handle joins the line of that one.

Whatever happens in a session, each handle says what was written last along its line
(`Session.states_run`). A step keeps this: places in the array of flags are given to lines so that
different lines have different places (`Session.Follows`). Evaluations are steps of a session as
well, and change nothing in it.
-/

namespace WindowQuery

/-! ### Ledgers -/

/-- Where a flag comes from. -/
inductive Origin where
  /-- A flag shared with the outside. -/
  | shared (flag : Nat)
  /-- The flag that was made for a handle, which goes by its place in the order. -/
  | own (handle : Nat)
deriving DecidableEq

/-- The book kept of a session: the flag of each handle in the order in which they were made, and
the writes, oldest first. -/
structure Ledger where
  shared : Nat
  origins : List Origin := []
  writes : List (Origin × Bool) := []

namespace Ledger

/-- The flag of the handle that a step makes, if it makes one. -/
def made? (l : Ledger) : SessionStep → Option Origin
  | .fresh => some (.own l.origins.length)
  | .clone i | .ofEngine i => l.origins[i]?
  | .ofFlag flag => if flag < l.shared then some (.shared flag) else none
  | _ => none

/-- The flag that a step writes and what it writes there, if it writes. -/
def written? (l : Ledger) : SessionStep → Option (Origin × Bool)
  | .write flag state => if flag < l.shared then some (.shared flag, state) else none
  | .cancel i => l.origins[i]?.map fun o => (o, true)
  | .reset i => l.origins[i]?.map fun o => (o, false)
  | _ => none

/-- The ledger with one more handle. -/
def join (l : Ledger) (o : Origin) : Ledger := { l with origins := l.origins ++ [o] }

/-- The ledger with one more write. -/
def write (l : Ledger) (o : Origin) (state : Bool) : Ledger :=
  { l with writes := l.writes ++ [(o, state)] }

/-- The ledger after a step. No step both makes a handle and writes. -/
def step (l : Ledger) (x : SessionStep) : Ledger :=
  match l.made? x, l.written? x with
  | some o, _ => l.join o
  | none, some (o, state) => l.write o state
  | none, none => l

/-- The ledger of a session that starts with a number of shared flags. -/
def after (shared : Nat) (steps : List SessionStep) : Ledger := steps.foldl step { shared }

/-- The **last** value written to a flag, unset if there is none. -/
def last (l : Ledger) (o : Origin) : Bool := (l.writes.reverse.lookup o).getD false

/-- A ledger **knows** the flags from outside and those of its handles. -/
def Knows (l : Ledger) (o : Origin) : Prop := o ∈ l.origins ∨ ∃ flag < l.shared, o = .shared flag

/-- A write is the last one to its origin, and to no other. -/
theorem last_write (l : Ledger) (o o' : Origin) (state : Bool) :
    (l.write o state).last o' = if o' = o then state else l.last o' := by
  rw [last, write, List.reverse_append, List.reverse_singleton, List.singleton_append,
    List.lookup_cons]
  by_cases h : o' = o
  · simp [h]
  · simp [beq_eq_false_iff_ne.mpr h, h, last]

variable {l : Ledger} {o o' : Origin}

theorem knows_join_iff : (l.join o).Knows o' ↔ o' = o ∨ l.Knows o' := by
  rw [Knows, Knows, join, List.mem_append, List.mem_singleton, or_right_comm, or_comm]

theorem step_of_made {x : SessionStep} (h : l.made? x = some o) : l.step x = l.join o := by
  rw [step, h]

theorem step_of_written {x : SessionStep} {state : Bool} (hmade : l.made? x = none)
    (h : l.written? x = some (o, state)) : l.step x = l.write o state := by
  rw [step, hmade, h]

theorem step_of_neither {x : SessionStep} (hmade : l.made? x = none) (h : l.written? x = none) :
    l.step x = l := by
  rw [step, hmade, h]

/-- The handles that there are keep their flags. -/
theorem getElem?_origins_step {i : Nat} (x : SessionStep) (h : l.origins[i]? = some o) :
    (l.step x).origins[i]? = some o := by
  unfold step
  split
  · exact (List.getElem?_append_left (List.getElem?_eq_some_iff.mp h).1).trans h
  · exact h
  · exact h

/-- A step that does not write a flag leaves what was written to it last. -/
theorem last_step {x : SessionStep} (h : ∀ state, l.written? x ≠ some (o, state)) :
    (l.step x).last o = l.last o := by
  unfold step
  split
  case h_1 => rfl
  case h_2 o' state _ hx =>
    have apart : o ≠ o' := fun heq => h state (heq ▸ hx)
    rw [last_write, if_neg apart]
  case h_3 => rfl

/-- The handles of a ledger are on flags of earlier handles or their own, and what was written was
written to known flags. -/
structure Coherent (l : Ledger) : Prop where
  older : ∀ i, l.Knows (.own i) → i < l.origins.length
  unwritten : ∀ o, ¬ l.Knows o → l.last o = false

/-- A handle may join what is known, or the next origin of its own. -/
theorem Coherent.join (h : l.Coherent) (ho : o = .own l.origins.length ∨ l.Knows o) :
    (l.join o).Coherent where
  older i hi := by
    have length : (l.join o).origins.length = l.origins.length + 1 := List.length_append
    rw [length]
    rcases knows_join_iff.mp hi with heq | hi
    · rcases ho with ho | ho
      · cases heq.trans ho
        exact Nat.lt_succ_self _
      · exact Nat.lt_succ_of_lt (h.older i (heq ▸ ho))
    · exact Nat.lt_succ_of_lt (h.older i hi)
  unwritten o' ho' := h.unwritten o' fun known => ho' (knows_join_iff.mpr (.inr known))

theorem Coherent.write (h : l.Coherent) (ho : l.Knows o) (state : Bool) :
    (l.write o state).Coherent where
  older := h.older
  unwritten o' ho' := by
    have apart : o' ≠ o := fun heq => ho' (heq ▸ ho)
    rw [last_write, if_neg apart, h.unwritten o' ho']

end Ledger

/-! ### Flags -/

namespace Flags

theorem get_set {f : Flags} {flag : Nat} (h : flag < f.states.size) (state : Bool) (flag' : Nat) :
    (f.set flag state).get flag' = if flag' = flag then state else f.get flag' := by
  rw [get, set, Array.getElem?_setIfInBounds]
  by_cases heq : flag' = flag
  · simp [heq, h]
  · rw [if_neg (Ne.symm heq), if_neg heq, get]

/-- A new flag is not set, and no other flag changes. -/
theorem get_fresh (f : Flags) (flag : Nat) : f.fresh.2.get flag = f.get flag := by
  simp only [get, fresh, Array.getElem?_push]
  by_cases h : flag = f.states.size <;> simp [h]

theorem get_size (f : Flags) : f.get f.states.size = false := by simp [get]

theorem isCancelled_fresh (f : Flags) : f.fresh.2.isCancelled f.fresh.1 = false :=
  (f.get_fresh _).trans f.get_size

end Flags

/-! ### Sessions and their ledgers -/

namespace Session

/-- A session **follows** a ledger when every flag that the ledger knows has a place of its own
among the flags, where the last value is found that was written to it. -/
structure Follows (s : Session) (l : Ledger) (place : Origin → Nat) : Prop extends l.Coherent where
  shared_eq : s.shared = l.shared
  handles_eq : s.handles.toList = l.origins.map fun o => ⟨place o⟩
  place_shared : ∀ flag < l.shared, place (.shared flag) = flag
  inside : ∀ o, l.Knows o → place o < s.flags.states.size
  apart : ∀ o o', l.Knows o → l.Knows o' → place o = place o' → o = o'
  get_eq : ∀ o, l.Knows o → s.flags.get (place o) = l.last o

variable {s : Session} {l : Ledger} {place : Origin → Nat}

/-- At the start shared flags stand at their own numbers. -/
theorem follows_start (shared : Nat) : ∃ place, (start shared).Follows { shared } place := by
  have knows {o : Origin} : Ledger.Knows { shared } o → ∃ flag < shared, o = .shared flag :=
    fun h => h.resolve_left List.not_mem_nil
  have coherent : Ledger.Coherent { shared } := by
    refine ⟨fun i ho => ?_, fun _ _ => rfl⟩
    obtain ⟨flag, -, heq⟩ := knows ho
    cases heq
  refine ⟨fun | .shared flag => flag | .own _ => 0, coherent, rfl, rfl, fun _ _ => rfl, ?_, ?_, ?_⟩
  · intro o ho
    obtain ⟨flag, hflag, rfl⟩ := knows ho
    simpa [start] using hflag
  · intro o o' ho ho' heq
    obtain ⟨flag, hflag, rfl⟩ := knows ho
    obtain ⟨flag', hflag', rfl⟩ := knows ho'
    exact congrArg _ heq
  · intro o ho
    obtain ⟨flag, hflag, rfl⟩ := knows ho
    simp [start, Flags.get, Ledger.last, hflag]

namespace Follows

variable (h : s.Follows l place)
include h

theorem handle?_eq (i : Nat) : s.handle? i = l.origins[i]?.map fun o => ⟨place o⟩ := by
  rw [handle?, ← Array.getElem?_toList, h.handles_eq, List.getElem?_map]

/-- **Another handle** on a flag that is known. -/
theorem give {o : Origin} (ho : l.Knows o) : (s.give ⟨place o⟩).Follows (l.join o) place := by
  have knows {o' : Origin} (ho' : (l.join o).Knows o') : l.Knows o' :=
    (Ledger.knows_join_iff.mp ho').elim (fun heq => heq ▸ ho) id
  exact
    { h.toCoherent.join (.inr ho) with
      shared_eq := h.shared_eq
      handles_eq := by simp [Session.give, Ledger.join, h.handles_eq]
      place_shared := h.place_shared
      inside := fun o' ho' => h.inside o' (knows ho')
      apart := fun o₁ o₂ ho₁ ho₂ => h.apart o₁ o₂ (knows ho₁) (knows ho₂)
      get_eq := fun o' ho' => h.get_eq o' (knows ho') }

/-- **A write** to a flag that is known. -/
theorem write {o : Origin} (ho : l.Knows o) (state : Bool) :
    Follows { s with flags := s.flags.set (place o) state } (l.write o state) place where
  toCoherent := h.toCoherent.write ho state
  shared_eq := h.shared_eq
  handles_eq := h.handles_eq
  place_shared := h.place_shared
  inside o' ho' := by simpa [Flags.set] using h.inside o' ho'
  apart := h.apart
  get_eq o' ho' := by
    rw [Flags.get_set (h.inside o ho), Ledger.last_write, h.get_eq o' ho']
    have same : place o' = place o ↔ o' = o := ⟨h.apart o' o ho' ho, congrArg place⟩
    simp only [same]

/-- A handle made from another, if there is that one. -/
theorem copy {x : SessionStep} (i : Nat) (hmade : l.made? x = l.origins[i]?)
    (hwritten : l.written? x = none) :
    ((s.handle? i).elim s s.give).Follows (l.step x) place := by
  rw [h.handle?_eq]
  cases ho : l.origins[i]? with
  | none => rwa [Ledger.step_of_neither (hmade.trans ho) hwritten]
  | some o =>
    rw [Ledger.step_of_made (hmade.trans ho)]
    exact h.give (.inl (List.mem_of_getElem? ho))

/-- A write through a handle, if there is that one. -/
theorem through {x : SessionStep} (i : Nat) (state : Bool) (hmade : l.made? x = none)
    (hwritten : l.written? x = l.origins[i]?.map fun o => (o, state)) :
    Follows ((s.handle? i).elim s fun handle =>
      { s with flags := s.flags.set handle.flag state }) (l.step x) place := by
  rw [h.handle?_eq]
  cases ho : l.origins[i]? with
  | none =>
    rw [ho] at hwritten
    rwa [Ledger.step_of_neither hmade hwritten]
  | some o =>
    rw [ho] at hwritten
    rw [Ledger.step_of_written hmade hwritten]
    exact h.write (.inl (List.mem_of_getElem? ho)) state

/-- **A handle on a flag of its own**, which goes to a place that no other flag has. -/
theorem fresh : ∃ place',
    (s.step .fresh).Follows (l.join (.own l.origins.length)) place' := by
  generalize hnew : Origin.own l.origins.length = new
  -- all that is known is older than the new origin
  have unknown : ¬ l.Knows new := fun ho => Nat.lt_irrefl _ (h.older _ (hnew ▸ ho))
  let place' := Function.update place new s.flags.states.size
  have placed : place' new = s.flags.states.size := Function.update_self ..
  have kept {o : Origin} (ho : l.Knows o) : place' o = place o := by
    have old : o ≠ new := fun heq => unknown (heq ▸ ho)
    exact Function.update_of_ne old ..
  refine ⟨place', h.toCoherent.join (.inl hnew.symm), h.shared_eq, ?_, ?_, ?_, ?_, ?_⟩
  · have old : (l.origins.map fun o => Handle.mk (place' o)) = s.handles.toList := by
      rw [h.handles_eq]
      exact List.map_congr_left fun o ho => congrArg _ (kept (.inl ho))
    have handles : (s.step .fresh).handles.toList =
        s.handles.toList ++ [⟨s.flags.states.size⟩] := Array.toList_push
    rw [handles, Ledger.join, List.map_append, old, List.map_singleton, placed]
  · intro flag hflag
    rw [kept (.inr ⟨flag, hflag, rfl⟩), h.place_shared flag hflag]
  · intro o ho
    have size : (s.step .fresh).flags.states.size = s.flags.states.size + 1 := Array.size_push ..
    rw [size]
    rcases Ledger.knows_join_iff.mp ho with rfl | ho
    · rw [placed]
      exact Nat.lt_succ_self _
    · rw [kept ho]
      exact Nat.lt_succ_of_lt (h.inside o ho)
  · -- the new place lies behind all others
    intro o o' ho ho' heq
    rcases Ledger.knows_join_iff.mp ho with hfirst | known
    · rcases Ledger.knows_join_iff.mp ho' with hsecond | known'
      · exact hfirst.trans hsecond.symm
      · rw [hfirst, placed, kept known'] at heq
        exact absurd (h.inside o' known') (heq ▸ Nat.lt_irrefl _)
    · rcases Ledger.knows_join_iff.mp ho' with hsecond | known'
      · rw [hsecond, placed, kept known] at heq
        exact absurd (h.inside o known) (heq ▸ Nat.lt_irrefl _)
      · rw [kept known, kept known'] at heq
        exact h.apart o o' known known' heq
  · intro o ho
    have get : (s.step .fresh).flags.get (place' o) = s.flags.get (place' o) :=
      s.flags.get_fresh _
    have last : (l.join new).last o = l.last o := rfl
    rw [get, last]
    rcases Ledger.knows_join_iff.mp ho with rfl | ho
    · rw [placed, h.unwritten o unknown, Flags.get_size]
    · rw [kept ho, h.get_eq o ho]

end Follows

/-- **An evaluation** changes nothing in a session. -/
theorem step_evaluate (s : Session) (i : Nat) (schedule : Schedule) (e : Expression) (t : Table) :
    s.step (.evaluate i schedule e t) = s := by
  rw [Session.step]
  cases s.handle? i with
  | none => rfl
  | some h => rw [Option.elim_some, Engine.during_pass]

/-- **A step** of a session is followed in its ledger. -/
theorem Follows.step (h : s.Follows l place) (x : SessionStep) :
    ∃ place', (s.step x).Follows (l.step x) place' := by
  cases x with
  | fresh => exact h.fresh
  | clone i => exact ⟨place, h.copy i rfl rfl⟩
  | ofEngine i => exact ⟨place, h.copy i rfl rfl⟩
  | ofFlag flag =>
    refine ⟨place, ?_⟩
    by_cases hflag : flag < l.shared
    · -- only a flag that was shared at the start gives a handle
      have made : l.made? (.ofFlag flag) = some (.shared flag) := if_pos hflag
      have given := h.give (.inr ⟨flag, hflag, rfl⟩)
      rw [h.place_shared flag hflag] at given
      rwa [Session.step, if_pos (h.shared_eq ▸ hflag), Ledger.step_of_made made]
    · have made : l.made? (.ofFlag flag) = none := if_neg hflag
      rwa [Session.step, if_neg (h.shared_eq ▸ hflag), Ledger.step_of_neither made rfl]
  | write flag state =>
    refine ⟨place, ?_⟩
    by_cases hflag : flag < l.shared
    · have hwritten : l.written? (.write flag state) = some (.shared flag, state) := if_pos hflag
      have written := h.write (.inr ⟨flag, hflag, rfl⟩) state
      rw [h.place_shared flag hflag] at written
      rwa [Session.step, if_pos (h.shared_eq ▸ hflag), Ledger.step_of_written rfl hwritten]
    · have hwritten : l.written? (.write flag state) = none := if_neg hflag
      rwa [Session.step, if_neg (h.shared_eq ▸ hflag), Ledger.step_of_neither rfl hwritten]
  | cancel i => exact ⟨place, h.through i true rfl rfl⟩
  | reset i => exact ⟨place, h.through i false rfl rfl⟩
  | evaluate i schedule e t =>
    rw [step_evaluate, Ledger.step_of_neither rfl rfl]
    exact ⟨place, h⟩

/-- **A run** of a session is followed in its ledger. -/
theorem Follows.run (h : s.Follows l place) (steps : List SessionStep) :
    ∃ place', (s.run steps).Follows (steps.foldl Ledger.step l) place' := by
  induction steps generalizing s l place with
  | nil => exact ⟨place, h⟩
  | cons x rest ih =>
    obtain ⟨place', h'⟩ := h.step x
    exact ih h'

/-! ### What the handles say -/

theorem Follows.states_eq (h : s.Follows l place) : s.states = l.origins.map l.last := by
  rw [states, h.handles_eq, List.map_map]
  exact List.map_congr_left fun o ho => h.get_eq o (.inl ho)

theorem getElem?_states (s : Session) (i : Nat) :
    s.states[i]? = (s.handle? i).map s.flags.isCancelled := by
  rw [states, List.getElem?_map, handle?, Array.getElem?_toList]

/-- **What handles say** after any steps of a session. Each says what was last written to the flag
it refers to, through the flag or through any handle on it, and a step that does not write this flag
leaves what it says. Evaluations change nothing. One whose expression passes its check is cancelled
exactly when the handle of its engine says so, and has else the result that it has under a new
handle. -/
theorem states_run {shared : Nat} {steps : List SessionStep} {s : Session} {l : Ledger}
    (hs : (start shared).run steps = s) (hl : Ledger.after shared steps = l) :
    s.states = l.origins.map l.last ∧
    (∀ x (i : Nat) o, l.origins[i]? = some o → (∀ state, l.written? x ≠ some (o, state)) →
      (s.step x).states[i]? = s.states[i]?) ∧
    (∀ i schedule e t, s.step (.evaluate i schedule e t) = s) ∧
    ∀ (i : Nat) h, s.handle? i = some h → ∀ schedule e t, e.check = .ok () →
      ∃ result, s.flags.during ((Engine.mk schedule h).pass e t) = (s.flags, result) ∧
        (result = .error .cancelled ↔ s.states[i]? = some true) ∧
        (s.states[i]? = some false →
          let (fresh, flags) := s.flags.fresh
          flags.during ((Engine.mk schedule fresh).pass e t) = (flags, result)) := by
  obtain ⟨start, hstart⟩ := follows_start shared
  obtain ⟨place, h⟩ := hstart.run steps
  rw [hs] at h
  rw [← Ledger.after, hl] at h
  refine ⟨h.states_eq, fun x i o ho hx => ?_, step_evaluate s,
    fun i handle hi schedule e t hcheck => ?_⟩
  · obtain ⟨place', h'⟩ := h.step x
    rw [h'.states_eq, h.states_eq, List.getElem?_map, List.getElem?_map, ho,
      Ledger.getElem?_origins_step x ho, Option.map_some, Option.map_some, Ledger.last_step hx]
  · rw [getElem?_states, hi, Option.map_some]
    refine ⟨_, Engine.during_pass .., ?_, fun unset => ?_⟩
    · rw [Engine.evaluate_eq_cancelled_iff _ _ _ hcheck, Option.some_inj]
    · have unset : s.flags.isCancelled handle = false := Option.some.inj unset
      -- nobody has cancelled either handle, so both evaluations run on
      have same : (Engine.mk schedule s.flags.fresh.1).evaluate s.flags.fresh.2 e t =
          (Engine.mk schedule handle).evaluate s.flags e t :=
        Engine.evaluate_congr t rfl (s.flags.isCancelled_fresh.trans unset.symm)
      exact (Engine.during_pass ..).trans (congrArg _ same)

/-- Two handles on the second of two flags from outside, and two on a flag of their own. Of the
first pair one cancels and the other resets; of the second the copy cancels. -/
private def watches : List SessionStep :=
  [.ofFlag 1, .fresh, .clone 1, .ofEngine 0, .write 0 true, .cancel 3, .reset 0, .cancel 2]

/-- The session after these steps. -/
private def watched : Session := (start 2).run watches

private def watchTable : Table := ⟨[.typed ⟨"watch", .int64 #[some 1, none]⟩], [("watch", 0)]⟩

/-- An expression that has a value over any table. -/
private def watchNumber : Expression := ⟨.rowNumber, {}, none⟩

/-- Only the second pair is cancelled, and a write to the other flag would not change that. -/
theorem states_run_watches :
    watched.states = [false, true, true, false] ∧
      (watched.step (.write 1 false)).states[2]? = some true ∧
      watched.flags.during ((Engine.mk .standard ⟨2⟩).pass watchNumber watchTable) =
        (watched.flags, .error .cancelled) ∧
      ∃ result, result ≠ .error .cancelled ∧
        watched.flags.during ((Engine.mk .standard ⟨1⟩).pass watchNumber watchTable) =
          (watched.flags, result) := by
  obtain ⟨told, kept, -, passes⟩ := states_run (s := watched) rfl (rfl : Ledger.after 2 watches = _)
  have told : watched.states = [false, true, true, false] := told.trans (by decide)
  refine ⟨told, ?_, ?_, ?_⟩
  · rw [kept (.write 1 false) 2 (.own 1) rfl (by decide), told]
    rfl
  · obtain ⟨result, hpass, stops, -⟩ := passes 1 ⟨2⟩ rfl .standard watchNumber watchTable rfl
    rw [hpass, stops.mpr (by rw [told]; rfl)]
  · obtain ⟨result, hpass, stops, -⟩ := passes 0 ⟨1⟩ rfl .standard watchNumber watchTable rfl
    refine ⟨result, fun stopped => ?_, hpass⟩
    have := stops.mp stopped
    rw [told] at this
    cases this

end Session

end WindowQuery
