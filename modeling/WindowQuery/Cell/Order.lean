import WindowQuery.Cell.Basic

/-!
# Order and equality of cells

`Cell.order` is what sorting and peer detection use, and `Cell.same` what partition keys use.
Integers and doubles meet as doubles in both; two integers compare exactly.
-/

namespace WindowQuery.Cell

/-- The **order** of cells: NULL first, numbers by value with NaN last, texts by character code,
`false` before `true`. Cells of unrelated kinds compare equal. -/
def order : Cell → Cell → Ordering
  | null, null => .eq
  | null, _ => .lt
  | _, null => .gt
  | int a, int b => compare a.toInt b.toInt
  | float x, float y => Binary64.order x y
  | int a, float y => Binary64.order (Binary64.ofInt a.toInt) y
  | float x, int b => Binary64.order x (Binary64.ofInt b.toInt)
  | text s, text t => compare s t
  | bool a, bool b => compare a b
  | _, _ => .eq

/-- **Equality** of cells as keys: NULL equals NULL, NaN equals NaN, the zeros are equal, and an
integer equals the double it rounds to. -/
def same : Cell → Cell → Bool
  | null, null => true
  | int a, int b => a == b
  | float x, float y => Binary64.same x y
  | int a, float y => Binary64.same (Binary64.ofInt a.toInt) y
  | float x, int b => Binary64.same x (Binary64.ofInt b.toInt)
  | text s, text t => s == t
  | bool a, bool b => a == b
  | _, _ => false

/-! ### Laws -/

@[simp] theorem order_self (c : Cell) : order c c = .eq := by cases c <;> simp [order]

/-- Exchanging the cells reverses their order, whatever their kinds. -/
theorem order_swap (a b : Cell) : (order a b).swap = order b a := by
  cases a <;> cases b <;>
    simp only [order, Binary64.order_swap, Ordering.swap_eq, Ordering.swap_lt, Ordering.swap_gt,
      ← Std.OrientedOrd.eq_swap]

@[simp] theorem same_self (c : Cell) : same c c = true := by
  cases c <;> simp [same, Binary64.same]

theorem same_comm (a b : Cell) : same a b = same b a := by
  cases a <;> cases b <;> simp only [same, Binary64.same] <;> exact BEq.comm

/-! ### Tuples of keys -/

/-- Order along a sort direction. -/
def orderAlong (ascending : Bool) (a b : Cell) : Ordering :=
  if ascending then order a b else (order a b).swap

/-- Lexicographic order of key tuples, each component along its own direction. -/
def orderTuples : List Bool → List Cell → List Cell → Ordering
  | ascending :: directions, a :: as, b :: bs =>
    (orderAlong ascending a b).then (orderTuples directions as bs)
  | _, _, _ => .eq

/-- Component-wise equality of key tuples. -/
def sameTuples : List Cell → List Cell → Bool
  | [], [] => true
  | a :: as, b :: bs => same a b && sameTuples as bs
  | _, _ => false

end WindowQuery.Cell
