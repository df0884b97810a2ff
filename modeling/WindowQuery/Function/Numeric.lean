import WindowQuery.Column.Basic
import WindowQuery.Span.Fold
import WindowQuery.Span.RangeTree

/-!
# Arithmetic of aggregates

What `SUM`, `AVG`, `MIN` and `MAX` need of the numbers in a column, and the four of them on a
sequence of optional numbers, where a missing number is a NULL cell.

Integers wrap around, which makes the difference of two running sums exact even when the sums
themselves have wrapped: an integer column sums each frame in constant time. Doubles round at
each step and have to be added frame by frame. The least and the greatest number do not depend on
how a frame is divided, so a range tree finds them.
-/

namespace WindowQuery

/-! ### Sums -/

/-- Adds an optional number; a missing one adds nothing. -/
@[inline] def addPresent (add : α → α → α) (total : α) : Option α → α
  | some a => add total a
  | none => total

/-- The running sums from a total on: one more than there are values. -/
def runningSums (add : α → α → α) (total : α) : List (Option α) → List α
  | [] => [total]
  | v :: rest => total :: runningSums add (addPresent add total v) rest

/-- The sum over each span by the difference of two running sums, where subtraction undoes
addition exactly. -/
def sumsByDifference (add sub : α → α → α) (zero : α) (values : Array (Option α))
    (spans : List Span) : List α :=
  let totals := (runningSums add zero values.toList).toArray
  spans.map fun s => sub (totals[s.stop]?.getD zero) (totals[s.start]?.getD zero)

/-- The sum of doubles over each span from a start value, added from left to right. -/
def sumsOfDoubles (start : Float) (values : Array (Option Float)) (spans : List Span) :
    List Float :=
  Span.foldAll (addPresent fun total a => total + a) start values spans

theorem sumsOfDoubles_eq_map (start : Float) (values : Array (Option Float)) (spans : List Span) :
    sumsOfDoubles start values spans = spans.map fun s =>
      s.fold (addPresent fun total a => total + a) start values := Span.foldAll_eq_map ..

/-! ### Extremes -/

/-- The lesser of two numbers, the first of two equal ones. -/
def lesser (order : α → α → Ordering) (a b : α) : α := if order a b = .gt then b else a

/-- The greater of two numbers, the second of two equal ones. -/
def greater (order : α → α → Ordering) (a b : α) : α := if order a b = .gt then a else b

/-- The least of several numbers can be found by parts, the first one of equals included. -/
theorem regroups_lesser (order : α → α → Ordering) [Std.TransCmp order] :
    Regroups (lesser order) := by
  intro a b c
  have gt_trans : order a b = .gt → order b c = .gt → order a c = .gt := Std.TransCmp.gt_trans
  have le_trans : (order a b).isLE → (order b c).isLE → (order a c).isLE :=
    Std.TransCmp.isLE_trans
  simp only [Ordering.isLE_iff_ne_gt] at le_trans
  grind [lesser]

/-- The greatest of several numbers can be found by parts, the last one of equals included. -/
theorem regroups_greater (order : α → α → Ordering) [Std.TransCmp order] :
    Regroups (greater order) := by
  intro a b c
  have gt_trans : order a b = .gt → order b c = .gt → order a c = .gt := Std.TransCmp.gt_trans
  have le_trans : (order a b).isLE → (order b c).isLE → (order a c).isLE :=
    Std.TransCmp.isLE_trans
  simp only [Ordering.isLE_iff_ne_gt] at le_trans
  grind [greater]

/-! ### Numbers of a column -/

/-- Numbers that aggregates work on. -/
class Numeric (α : Type) where
  zero : α
  /-- The number of a cell, none for what is not numeric. -/
  ofCell? : Cell → Option α
  add : α → α → α
  /-- The sum over each span. -/
  spanSums : Array (Option α) → List Span → List α
  toDouble : α → Float
  /-- The order of `MIN` and `MAX`. -/
  order : α → α → Ordering
  transCmp_order : Std.TransCmp order
  storage : Array (Option α) → Storage

/-- Order by the value of an integer is a total preorder. -/
theorem transCmp_compareOn (value : α → Int) :
    Std.TransCmp fun a b => compare (value a) (value b) where
  eq_swap := Std.OrientedOrd.eq_swap
  isLE_trans := Std.TransOrd.isLE_trans

instance : Numeric Int32 where
  zero := 0
  ofCell? c := c.int?.map Int64.toInt32
  add a b := a + b
  spanSums := sumsByDifference (· + ·) (· - ·) 0
  toDouble a := Binary64.ofInt a.toInt
  order a b := compare a.toInt b.toInt
  transCmp_order := transCmp_compareOn Int32.toInt
  storage := .int32

instance : Numeric Int64 where
  zero := 0
  ofCell? := Cell.int?
  add a b := a + b
  spanSums := sumsByDifference (· + ·) (· - ·) 0
  toDouble a := Binary64.ofInt a.toInt
  order a b := compare a.toInt b.toInt
  transCmp_order := transCmp_compareOn Int64.toInt
  storage := .int64

instance : Numeric Float where
  zero := 0
  ofCell? := Cell.float?
  add a b := a + b
  spanSums := sumsOfDoubles 0
  toDouble a := a
  order := Binary64.order
  transCmp_order := Binary64.transCmp_order
  storage := .float64

namespace Numeric

variable {α : Type} [Numeric α]

/-- The **sum** of the numbers present, from left to right, zero without any. -/
def sum (values : Array (Option α)) : α := values.foldl (addPresent add) zero

/-- The numbers as doubles. -/
def doubles (values : Array (Option α)) : Array (Option Float) :=
  values.map fun v => v.map toDouble

/-- The **average** over each span: the sum of the numbers present, which starts from negative
zero, divided by the number of all positions. An empty span averages to zero. -/
def spanAverages (values : Array (Option α)) (spans : List Span) : List Float :=
  let totals := sumsOfDoubles Binary64.negativeZero (doubles values) spans
  List.zipWith
    (fun s total => if s.isEmpty then 0 else total / Binary64.ofNat s.size) spans totals

/-- The **least** number over each span, the first of equal ones, zero without any. -/
def spanLeasts (values : Array (Option α)) (spans : List Span) : List α :=
  let tree := RangeTree.ofArray (lesser order) values
  spans.map fun s => (RangeTree.queryAll (lesser order) tree s.start s.stop).getD zero

/-- The **greatest** number over each span, the last of equal ones, zero without any. -/
def spanGreatests (values : Array (Option α)) (spans : List Span) : List α :=
  let tree := RangeTree.ofArray (greater order) values
  spans.map fun s => (RangeTree.queryAll (greater order) tree s.start s.stop).getD zero

/-- Sums of doubles over spans are those of each span by itself, from left to right. -/
theorem spanSums_double (values : Array (Option Float)) (spans : List Span) :
    spanSums values spans = spans.map fun s => sum (s.slice values) := by
  simp only [spanSums, sumsOfDoubles_eq_map, Span.fold_eq_foldl_slice]
  rfl

/-- Averages over spans are those of each span by itself. -/
theorem spanAverages_eq_map (values : Array (Option α)) (spans : List Span) :
    spanAverages values spans = spans.map fun s =>
      if s.isEmpty then 0
      else s.fold (addPresent fun total a => total + a) Binary64.negativeZero (doubles values) /
        Binary64.ofNat s.size := by
  simp only [spanAverages, sumsOfDoubles_eq_map]
  induction spans with
  | nil => rfl
  | cons s rest ih => rw [List.map_cons, List.map_cons, List.zipWith_cons_cons, ih]

/-- The range tree finds the least number of each span. -/
theorem spanLeasts_eq_map (values : Array (Option α)) (spans : List Span) :
    spanLeasts values spans = spans.map fun s =>
      (combine (lesser order) (s.slice values).toList).getD zero := by
  have := @transCmp_order α _
  simp only [spanLeasts, RangeTree.queryAll_ofArray (regroups_lesser order)]

/-- The range tree finds the greatest number of each span. -/
theorem spanGreatests_eq_map (values : Array (Option α)) (spans : List Span) :
    spanGreatests values spans = spans.map fun s =>
      (combine (greater order) (s.slice values).toList).getD zero := by
  have := @transCmp_order α _
  simp only [spanGreatests, RangeTree.queryAll_ofArray (regroups_greater order)]

end Numeric

end WindowQuery
