import WindowQuery.Span

/-!
# Runs of equal neighbours

A sequence of positions cut wherever a position differs from the one before it. On a sorted
sequence the runs are the classes of equal values: peers when the first ordering key is compared,
ties when all keys are.
-/

namespace WindowQuery

/-- Maximal **runs** of equal neighbours among the positions below `size`. -/
structure Runs where
  /-- The first position of each run. -/
  starts : Array Nat
  /-- The run of each position. -/
  runOf : Array Nat
  size : Nat
deriving DecidableEq, Repr

namespace Runs

/-- All positions in one run; no run when there is no position. -/
def single (size : Nat) : Runs :=
  ⟨if size = 0 then #[] else #[0], Array.replicate size 0, size⟩

/-- Whether a run starts at a position. -/
def startsAt (same : Nat → Nat → Bool) (p : Nat) : Bool := p == 0 || !same (p - 1) p

/-- Numbers a sequence by the starts seen so far, `seen` of them before it, and one less. -/
def numberFrom (seen : Nat) : List Bool → List Nat
  | [] => []
  | start :: rest =>
    let seen := if start then seen + 1 else seen
    (seen - 1) :: numberFrom seen rest

@[simp] theorem length_numberFrom (seen : Nat) (starts : List Bool) :
    (numberFrom seen starts).length = starts.length := by
  induction starts generalizing seen with
  | nil => rfl
  | cons start rest ih => simp [numberFrom, ih]

/-- The runs of positions below `size` under a test of neighbours. -/
def ofSame (size : Nat) (same : Nat → Nat → Bool) : Runs :=
  let positions := List.range size
  { starts := (positions.filter (startsAt same)).toArray
    runOf := (numberFrom 0 (positions.map (startsAt same))).toArray
    size }

/-- Number of runs. -/
def count (r : Runs) : Nat := r.starts.size

/-- The run of a position. -/
def indexOf (r : Runs) (p : Nat) : Nat := r.runOf[p]?.getD 0

/-- The first position of a run, or the end of all positions past the last run. -/
def startOf (r : Runs) (run : Nat) : Nat := r.starts[run]?.getD r.size

/-- The positions of a run. -/
def span (r : Runs) (run : Nat) : Span := ⟨r.startOf run, r.startOf (run + 1)⟩

/-- The positions that share a run with `p`. -/
def spanAt (r : Runs) (p : Nat) : Span := r.span (r.indexOf p)

theorem stop_span (r : Runs) (run : Nat) : (r.span run).stop = (r.span (run + 1)).start := rfl

end Runs

end WindowQuery
