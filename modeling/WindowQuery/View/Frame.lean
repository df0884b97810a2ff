import WindowQuery.Cell.Shift
import WindowQuery.View.Basic

/-!
# Resolving frames

`View.frameAt` gives the span of positions that a frame covers around a logical position. The two
ends are resolved on their own, the start first, and then brought together: a frame that would
end before it starts is empty.

* ROWS counts positions.
* RANGE measures distance on the first ordering key. An end takes in all peers of its boundary
  value, and a row whose order value is NULL sees exactly its NULL peers.
* GROUPS counts runs of peers.

Without order, RANGE and GROUPS cover the whole partition.
-/

namespace WindowQuery

/-- The least `p` between `low` and `high` from which on the test fails, when it holds on an
initial stretch only. Any test leads to a boundary: it holds just below the result and fails at
it. -/
def bisect (before : Nat → Bool) (low high : Nat) : Nat :=
  if low < high then
    let middle := low + (high - low) / 2
    if before middle then bisect before (middle + 1) high else bisect before low middle
  else low
termination_by high - low

theorem le_bisect {before : Nat → Bool} {low high : Nat} (h : low ≤ high) :
    low ≤ bisect before low high ∧ bisect before low high ≤ high := by
  fun_induction bisect before low high with
  | case1 low high hlt middle hb ih => grind
  | case2 low high hlt middle hb ih => grind
  | case3 => omega

/-- The test fails at the boundary. -/
theorem not_before_bisect {before : Nat → Bool} {low high : Nat}
    (h : bisect before low high < high) : before (bisect before low high) = false := by
  fun_induction bisect before low high with
  | case1 low high hlt middle hb ih => grind
  | case2 low high hlt middle hb ih => grind [le_bisect]
  | case3 => omega

/-- The test holds just below the boundary. -/
theorem before_bisect_pred {before : Nat → Bool} {low high : Nat}
    (h : low < bisect before low high) : before (bisect before low high - 1) = true := by
  fun_induction bisect before low high with
  | case1 low high hlt middle hb ih => grind [le_bisect]
  | case2 low high hlt middle hb ih => grind
  | case3 => omega

namespace View

/-- Both ends of a frame, the start resolved first. -/
def ends (start stop : Except QueryError Nat) : Except QueryError Span := do
  let start ← start
  let stop ← stop
  return ⟨start, stop⟩

/-! ### ROWS -/

/-- The first position at a ROWS bound. Going back stops at the first position of all; going forward
may leave the view, which `clampFrame` mends. -/
def rowsStart (v : View) (p : Nat) : Bound → Except QueryError Nat
  | .unboundedPreceding => .ok 0
  | .preceding o => o.count.map fun n => p - n
  | .currentRow => .ok p
  | .following o => o.count.map fun n => p + n
  | .unboundedFollowing => .ok v.size

/-- The position behind a ROWS bound, the first one of all when the bound is in front of it. -/
def rowsStop (v : View) (p : Nat) : Bound → Except QueryError Nat
  | .unboundedPreceding => .ok 0
  | .preceding o => o.count.map fun n => p + 1 - n
  | .currentRow => .ok (p + 1)
  | .following o => o.count.map fun n => p + n + 1
  | .unboundedFollowing => .ok v.size

/-! ### RANGE -/

/-- A value moved towards the start of the order. -/
def stepBack (v : View) (value : Cell) (o : Offset) : Except QueryError Cell :=
  if v.isAscending then value.sub o.toCell else value.add o.toCell

/-- A value moved towards the end of the order. -/
def stepForward (v : View) (value : Cell) (o : Offset) : Except QueryError Cell :=
  if v.isAscending then value.add o.toCell else value.sub o.toCell

/-- The first position whose order value does not come before the target. -/
def firstAtOrAfter (v : View) (target : Cell) : Nat :=
  bisect (fun p => v.order (v.orderValueAt p) target == .lt) 0 v.size

/-- The first position whose order value comes after the target. -/
def firstAfter (v : View) (target : Cell) : Nat :=
  bisect (fun p => v.order (v.orderValueAt p) target != .gt) 0 v.size

/-- The first position whose order value is not short of a RANGE bound. -/
def rangeStart (v : View) (p : Nat) : Bound → Except QueryError Nat
  | .unboundedPreceding => .ok 0
  | .currentRow => .ok (v.peers.spanAt p).start
  | .preceding o => (v.stepBack (v.orderValueAt p) o).map v.firstAtOrAfter
  | .following o => (v.stepForward (v.orderValueAt p) o).map v.firstAtOrAfter
  | .unboundedFollowing => .ok v.size

/-- The position behind the last one whose order value does not go beyond a RANGE bound. -/
def rangeStop (v : View) (p : Nat) : Bound → Except QueryError Nat
  | .unboundedPreceding => .ok 0
  | .currentRow => .ok (v.peers.spanAt p).stop
  | .preceding o => (v.stepBack (v.orderValueAt p) o).map v.firstAfter
  | .following o => (v.stepForward (v.orderValueAt p) o).map v.firstAfter
  | .unboundedFollowing => .ok v.size

/-! ### GROUPS -/

/-- The run of peers a bound points at. -/
def groupAt (v : View) (p : Nat) : Bound → Except QueryError Nat
  | .unboundedPreceding => .ok 0
  | .preceding o => o.count.map fun n => v.peers.indexOf p - n
  | .currentRow => .ok (v.peers.indexOf p)
  | .following o => o.count.map fun n => min (v.peers.indexOf p + n) (v.peers.count - 1)
  | .unboundedFollowing => .ok (v.peers.count - 1)

/-- From the first position of one run to the last of another, nothing if that comes before. -/
def groupsSpan (v : View) (groups : Span) : Span :=
  let start := (v.peers.span groups.start).start
  if groups.stop < groups.start then ⟨start, start⟩
  else ⟨start, (v.peers.span groups.stop).stop⟩

/-! ### Frames -/

/-- Both ends of a frame around a position of a view that is not empty, before they are brought
together. -/
def rawFrameAt (v : View) (p : Nat) (f : Frame) : Except QueryError Span :=
  match f.unit with
  | .rows => ends (v.rowsStart p f.start) (v.rowsStop p f.stop)
  | .range =>
    if !v.isOrdered then .ok ⟨0, v.size⟩
    else if (v.orderValueAt p).isNull then .ok (v.peers.spanAt p)
    else ends (v.rangeStart p f.start) (v.rangeStop p f.stop)
  | .groups =>
    if !v.isOrdered then .ok ⟨0, v.size⟩
    else (ends (v.groupAt p f.start) (v.groupAt p f.stop)).map v.groupsSpan

/-- Cuts a raw frame to the view. A start after everything and an end before everything win over
what the unit made of them. -/
def clampFrame (v : View) (f : Frame) (raw : Span) : Span :=
  let start := if f.start = .unboundedFollowing then v.size else min raw.start v.size
  let stop := if f.stop = .unboundedPreceding then 0 else min raw.stop v.size
  if stop < start then ⟨start, start⟩ else ⟨start, stop⟩

/-- The **frame** of a logical position. -/
def frameAt (v : View) (p : Nat) (f : Frame) : Except QueryError Span :=
  if v.size = 0 then .ok ⟨0, 0⟩ else (v.rawFrameAt p f).map (v.clampFrame f)

/-- The frame of a logical position; without a frame clause the whole partition. -/
def optionalFrameAt (v : View) (p : Nat) : Option Frame → Except QueryError Span
  | none => .ok ⟨0, v.size⟩
  | some f => v.frameAt p f

end View

end WindowQuery
