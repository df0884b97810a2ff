import WindowQuery.View.Frame

/-!
# Searching an ordered view

`View.search` bisects the positions of a view for the end of an initial stretch on which a test of
order values holds. The two ends of a RANGE frame are such searches.

The order values are all that a search learns about a view. `View.searchM` looks at them through a
reader, one position at a time, and the reader may do more than give the value. `View.notedSearch`
is the search with a reader that notes the position.
-/

namespace WindowQuery

/-- Bisection with a test that may act whenever it is asked. -/
def bisectM {m : Type → Type} [Monad m] (before : Nat → m Bool) (low high : Nat) : m Nat :=
  if low < high then do
    let middle := low + (high - low) / 2
    if ← before middle then bisectM before (middle + 1) high else bisectM before low middle
  else pure low
termination_by high - low

namespace View

/-- The order values in logical order. -/
def orderValues (v : View) : List Cell := v.positions.map v.orderValueAt

/-- The position where a test of order values turns false. -/
def search (v : View) (before : Cell → Bool) : Nat :=
  bisect (fun p => before (v.orderValueAt p)) 0 v.size

theorem firstAtOrAfter_eq_search (v : View) (target : Cell) :
    v.firstAtOrAfter target = v.search fun c => v.order c target == .lt := rfl

theorem firstAfter_eq_search (v : View) (target : Cell) :
    v.firstAfter target = v.search fun c => v.order c target != .gt := rfl

/-- The search of the positions below `size` through a reader of order values. -/
def searchM {m : Type → Type} [Monad m] (size : Nat) (read : Nat → m Cell) (before : Cell → Bool) :
    m Nat :=
  bisectM (fun p => before <$> read p) 0 size

/-- Gives the order value at a position and notes the position. -/
def note (v : View) (p : Nat) : StateM (List Nat) Cell := do
  modify (· ++ [p])
  return v.orderValueAt p

/-- The result of a search and the positions that were read for it, in this order. -/
def notedSearch (v : View) (before : Cell → Bool) : Nat × List Nat :=
  (searchM v.size v.note before).run []

end View

end WindowQuery
