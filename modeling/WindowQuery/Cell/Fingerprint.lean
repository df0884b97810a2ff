import WindowQuery.Cell.Order

/-!
# Fingerprints of cells

A fingerprint is a key that equal cells share, by which a cell finds its equals without being
compared with every other cell. Numbers are fingerprinted by the rank of their double, so an
integer meets the doubles it equals. The converse fails: integers that round to one double share
a fingerprint and are still different.

Fingerprints are linearly ordered (`Fingerprint.order`), and so are tuples of them, which makes
them keys of search trees.
-/

namespace WindowQuery.Cell

/-- A key by which equal cells are found: numbers by the rank of their double. -/
inductive Fingerprint where
  | null
  | bool (value : Bool)
  | number (rank : UInt64)
  | text (value : String)
deriving DecidableEq, Repr

/-- The **fingerprint** of a cell. -/
def fingerprint : Cell → Fingerprint
  | null => .null
  | bool b => .bool b
  | int a => .number (Binary64.rank (Binary64.ofInt a.toInt))
  | float x => .number (Binary64.rank x)
  | text s => .text s

/-- Equal cells have the same fingerprint. -/
theorem fingerprint_eq_of_same {a b : Cell} (h : same a b = true) :
    a.fingerprint = b.fingerprint := by
  cases a <;> cases b <;> simp_all [same, fingerprint, Binary64.same]

namespace Fingerprint

/-- A linear order of fingerprints. -/
def order : Fingerprint → Fingerprint → Ordering
  | null, null => .eq
  | null, _ => .lt
  | _, null => .gt
  | bool a, bool b => compare a b
  | bool _, _ => .lt
  | _, bool _ => .gt
  | number x, number y => compare x y
  | number _, _ => .lt
  | _, number _ => .gt
  | text s, text t => compare s t

theorem order_swap (a b : Fingerprint) : (order a b).swap = order b a := by
  cases a <;> cases b <;>
    simp only [order, Ordering.swap_eq, Ordering.swap_lt, Ordering.swap_gt,
      ← Std.OrientedOrd.eq_swap]

theorem order_isLE_trans {a b c : Fingerprint} (hab : (order a b).isLE) (hbc : (order b c).isLE) :
    (order a c).isLE := by
  cases a <;> cases b <;> cases c <;> first
    | exact Std.TransOrd.isLE_trans hab hbc
    | simp_all [order]

instance : Std.TransCmp order where
  eq_swap {a b} := (order_swap b a).symm
  isLE_trans := order_isLE_trans

instance : Std.LawfulEqCmp order where
  compare_self {a} := by cases a <;> simp [order]
  eq_of_compare {a b} h := by cases a <;> cases b <;> simp_all [order]

/-- Lexicographic order of tuples of fingerprints. -/
def orderTuples : List Fingerprint → List Fingerprint → Ordering := List.compareLex order

instance : Std.TransCmp orderTuples := List.instTransCmpCompareLex

instance : Std.LawfulEqCmp orderTuples := List.instLawfulEqCmpCompareLex

end Fingerprint

/-- The fingerprints of a tuple of keys. -/
def fingerprints (cells : List Cell) : List Fingerprint := cells.map fingerprint

/-- Equal tuples have the same fingerprints. -/
theorem fingerprints_eq_of_sameTuples {as bs : List Cell} (h : sameTuples as bs = true) :
    fingerprints as = fingerprints bs := by
  fun_induction sameTuples as bs with
  | case1 => rfl
  | case2 a as b bs ih =>
    rw [Bool.and_eq_true] at h
    rw [fingerprints, List.map_cons, fingerprint_eq_of_same h.1]
    exact congrArg _ (ih h.2)
  | case3 => simp at h

end WindowQuery.Cell
