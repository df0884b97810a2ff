import WindowQuery.Partition

/-!
# Cells of one kind

On arbitrary cells comparison and equality are not transitive: cells of unrelated kinds compare
equal, and integers meet doubles after rounding. A typed column, however, holds cells of one kind
beside NULL, and there comparison is a total preorder and equality an equivalence
(`order_isLE_trans_of_hasKind`, `same_trans_of_hasKind`).

A source **orders** rows when comparison of its cells is a total preorder, and **splits** them when
equality of its cells is an equivalence. Both pass from single sources to tuples of them.
-/

namespace WindowQuery.Cell

/-- Whether a cell can stand in a column of a kind: NULL can in all of them, any other cell only
in columns of its own kind. -/
def hasKind (k : Kind) : Cell → Bool
  | null => true
  | int _ => k.isInteger
  | float _ => k == .float64
  | text _ => k == .text
  | bool _ => k == .boolean

theorem hasKind_int64_iff {c : Cell} : c.hasKind .int64 = true ↔ c = null ∨ ∃ i, c = int i := by
  cases c <;> simp [hasKind, Kind.isInteger]

@[simp] theorem isLE_order_null_left (c : Cell) : (order null c).isLE = true := by cases c <;> rfl

theorem isLE_order_null_right {c : Cell} : (order c null).isLE = true ↔ c = null := by
  cases c <;> simp [order]

/-- Only NULL does not come after NULL. -/
theorem eq_null_of_order_ne_lt {c : Cell} (h : order null c ≠ .lt) : c = null := by
  cases c <;> simp_all [order]

theorem same_null_left {c : Cell} : same null c = true ↔ c = null := by cases c <;> simp [same]

theorem same_null_right {c : Cell} : same c null = true ↔ c = null := by cases c <;> simp [same]

/-! ### Cells built by one constructor -/

/-- The cell is NULL or built by the given constructor. -/
def Has {α : Type} (f : α → Cell) (c : Cell) : Prop := c = null ∨ ∃ x, c = f x

/-- The cells of a kind beside NULL share their constructor. -/
theorem has_of_hasKind (k : Kind) :
    (∀ c, hasKind k c = true → Has int c) ∨ (∀ c, hasKind k c = true → Has float c) ∨
      (∀ c, hasKind k c = true → Has text c) ∨ (∀ c, hasKind k c = true → Has bool c) := by
  cases k with
  | null | int32 | int64 =>
    refine .inl ?_
    intro c h
    cases c <;> simp_all [Has, hasKind, Kind.isInteger]
  | float64 =>
    refine .inr (.inl fun c h => ?_)
    cases c <;> simp_all [Has, hasKind, Kind.isInteger]
  | text =>
    refine .inr (.inr (.inl fun c h => ?_))
    cases c <;> simp_all [Has, hasKind, Kind.isInteger]
  | boolean =>
    refine .inr (.inr (.inr fun c h => ?_))
    cases c <;> simp_all [Has, hasKind, Kind.isInteger]

section

variable {α : Type} {f : α → Cell} {a b c : Cell} (ha : Has f a) (hb : Has f b) (hc : Has f c)
include ha hb hc

/-- NULL comes first, so transitivity only has to be known of the other cells. -/
theorem Has.order_isLE_trans
    (trans : ∀ x y z, (order (f x) (f y)).isLE = true → (order (f y) (f z)).isLE = true →
      (order (f x) (f z)).isLE = true)
    (hab : (order a b).isLE = true) (hbc : (order b c).isLE = true) : (order a c).isLE = true := by
  obtain rfl | ⟨x, rfl⟩ := ha
  · exact isLE_order_null_left c
  obtain rfl | ⟨y, rfl⟩ := hb
  · rw [isLE_order_null_right.mp hab]
    exact isLE_order_null_left c
  obtain rfl | ⟨z, rfl⟩ := hc
  · rw [isLE_order_null_right.mp hbc] at hab
    exact hab
  exact trans x y z hab hbc

/-- NULL equals only itself. -/
theorem Has.same_trans
    (trans : ∀ x y z, same (f x) (f y) = true → same (f y) (f z) = true → same (f x) (f z) = true)
    (hab : same a b = true) (hbc : same b c = true) : same a c = true := by
  obtain rfl | ⟨x, rfl⟩ := ha
  · rw [same_null_left.mp hab] at hbc
    exact hbc
  obtain rfl | ⟨y, rfl⟩ := hb
  · rw [same_null_left.mp hbc]
    exact hab
  obtain rfl | ⟨z, rfl⟩ := hc
  · rw [same_null_right.mp hbc] at hab
    exact hab
  exact trans x y z hab hbc

end

/-! ### Laws within a kind -/

section

variable {k : Kind} {a b c : Cell} (ha : hasKind k a = true) (hb : hasKind k b = true)
  (hc : hasKind k c = true)
include ha hb hc

/-- **Comparison within a kind is transitive.** -/
theorem order_isLE_trans_of_hasKind (hab : (order a b).isLE = true)
    (hbc : (order b c).isLE = true) : (order a c).isLE = true := by
  obtain h | h | h | h := has_of_hasKind k <;>
    refine (h _ ha).order_isLE_trans (h _ hb) (h _ hc) (fun x y z hxy hyz => ?_) hab hbc
  · exact Std.TransOrd.isLE_trans (α := Int) hxy hyz
  · exact Binary64.order_isLE_trans hxy hyz
  · exact Std.TransOrd.isLE_trans (α := String) hxy hyz
  · exact Std.TransOrd.isLE_trans (α := Bool) hxy hyz

/-- **Equality within a kind is transitive.** -/
theorem same_trans_of_hasKind (hab : same a b = true) (hbc : same b c = true) :
    same a c = true := by
  obtain h | h | h | h := has_of_hasKind k <;>
    refine (h _ ha).same_trans (h _ hb) (h _ hc) (fun x y z hxy hyz => ?_) hab hbc <;>
    simp_all [same, Binary64.same]

end

/-! ### Along a direction -/

theorem orderAlong_swap (ascending : Bool) (a b : Cell) :
    (orderAlong ascending a b).swap = orderAlong ascending b a := by
  cases ascending <;> simp [orderAlong, order_swap]

/-- A total preorder stays one along either direction. -/
theorem orderAlong_isLE_trans (ascending : Bool) {a b c : Cell}
    (up : (order a b).isLE = true → (order b c).isLE = true → (order a c).isLE = true)
    (down : (order c b).isLE = true → (order b a).isLE = true → (order c a).isLE = true)
    (hab : (orderAlong ascending a b).isLE = true) (hbc : (orderAlong ascending b c).isLE = true) :
    (orderAlong ascending a c).isLE = true := by
  cases ascending with
  | true => exact up hab hbc
  | false =>
    simp only [orderAlong, Bool.false_eq_true, if_false, order_swap] at hab hbc ⊢
    exact down hbc hab

/-! ### Lists of cells -/

/-- Comparison is a **total preorder** of some cells. Only transitivity can fail. -/
def Preordered (cells : List Cell) : Prop :=
  ∀ a ∈ cells, ∀ b ∈ cells, ∀ c ∈ cells, (order a b).isLE = true → (order b c).isLE = true →
    (order a c).isLE = true

instance (cells : List Cell) : Decidable (Preordered cells) :=
  inferInstanceAs (Decidable (∀ a ∈ cells, ∀ b ∈ cells, ∀ c ∈ cells,
    (order a b).isLE = true → (order b c).isLE = true → (order a c).isLE = true))

theorem preordered_of_hasKind {k : Kind} {cells : List Cell}
    (h : ∀ c ∈ cells, c.hasKind k = true) : Preordered cells :=
  fun a ha b hb c hc => order_isLE_trans_of_hasKind (h a ha) (h b hb) (h c hc)

/-- A total preorder of cells along either direction. -/
theorem Preordered.isLE_trans {cells : List Cell} (h : Preordered cells) (ascending : Bool)
    {a b c : Cell} (ha : a ∈ cells) (hb : b ∈ cells) (hc : c ∈ cells)
    (hab : (orderAlong ascending a b).isLE = true) (hbc : (orderAlong ascending b c).isLE = true) :
    (orderAlong ascending a c).isLE = true :=
  orderAlong_isLE_trans ascending (h a ha b hb c hc) (h c hc b hb a ha) hab hbc

/-! ### Tuples of cells -/

/-- The first component decides a lexicographic order unless it is level. -/
theorem orderTuples_cons (ascending : Bool) (directions : List Bool) (a b : Cell)
    (as bs : List Cell) :
    orderTuples (ascending :: directions) (a :: as) (b :: bs) =
      (orderAlong ascending a b).then (orderTuples directions as bs) := rfl

/-- Exchanging the tuples reverses their order. -/
theorem orderTuples_swap (directions : List Bool) (as bs : List Cell) :
    (orderTuples directions as bs).swap = orderTuples directions bs as := by
  induction directions generalizing as bs with
  | nil => rfl
  | cons ascending directions ih =>
    cases as with
    | nil => cases bs <;> rfl
    | cons a as =>
      cases bs with
      | nil => rfl
      | cons b bs => rw [orderTuples_cons, orderTuples_cons, Ordering.swap_then, orderAlong_swap, ih]

/-! ### Equality of tuples -/

@[simp] theorem sameTuples_self (as : List Cell) : sameTuples as as = true := by
  induction as with
  | nil => rfl
  | cons a as ih => simp [sameTuples, ih]

theorem sameTuples_comm (as bs : List Cell) : sameTuples as bs = sameTuples bs as := by
  induction as generalizing bs with
  | nil => cases bs <;> rfl
  | cons a as ih =>
    cases bs with
    | nil => rfl
    | cons b bs => rw [sameTuples, sameTuples, same_comm, ih]

end WindowQuery.Cell

namespace WindowQuery

theorem Storage.hasKind_cell (s : Storage) (row : Nat) : (s.cell row).hasKind s.kind = true := by
  cases s <;> simp only [cell, kind] <;> cases value? _ row <;> rfl

namespace Source

/-- Comparison of cells is a total preorder of rows. Only transitivity can fail. -/
def OrdersRows (s : Source) : Prop :=
  ∀ i j k, (Cell.order (s.cell i) (s.cell j)).isLE = true →
    (Cell.order (s.cell j) (s.cell k)).isLE = true → (Cell.order (s.cell i) (s.cell k)).isLE = true

/-- Equality of cells is an equivalence of rows. Only transitivity can fail. -/
def SplitsRows (s : Source) : Prop :=
  ∀ i j k, Cell.same (s.cell i) (s.cell j) = true → Cell.same (s.cell j) (s.cell k) = true →
    Cell.same (s.cell i) (s.cell k) = true

theorem ordersRows_typed (c : Column) : (typed c).OrdersRows := fun i j k =>
  Cell.order_isLE_trans_of_hasKind (c.storage.hasKind_cell i) (c.storage.hasKind_cell j)
    (c.storage.hasKind_cell k)

theorem splitsRows_typed (c : Column) : (typed c).SplitsRows := fun i j k =>
  Cell.same_trans_of_hasKind (c.storage.hasKind_cell i) (c.storage.hasKind_cell j)
    (c.storage.hasKind_cell k)

/-- A total preorder of rows along either direction. -/
theorem OrdersRows.transCmp_orderAlong {s : Source} (h : s.OrdersRows) (ascending : Bool) :
    Std.TransCmp fun i j => Cell.orderAlong ascending (s.cell i) (s.cell j) := by
  have along : Std.TransCmp fun i j => Cell.order (s.cell i) (s.cell j) :=
    { eq_swap := (Cell.order_swap _ _).symm, isLE_trans := h _ _ _ }
  cases ascending with
  | true => exact along
  | false =>
    simp only [Cell.orderAlong, Bool.false_eq_true, if_false, Cell.order_swap]
    exact Std.TransCmp.opposite

/-- Tuples of cells order rows when each source does, whatever the directions are. -/
theorem transCmp_orderTuples {sources : List Source} (h : ∀ s ∈ sources, s.OrdersRows)
    (directions : List Bool) :
    Std.TransCmp fun i j => Cell.orderTuples directions (tuple sources i) (tuple sources j) := by
  induction sources generalizing directions with
  | nil => cases directions <;> exact { eq_swap := rfl, isLE_trans := fun _ _ => rfl }
  | cons s rest ih =>
    obtain ⟨hs, hrest⟩ := List.forall_mem_cons.mp h
    cases directions with
    | nil => exact { eq_swap := rfl, isLE_trans := fun _ _ => rfl }
    | cons ascending directions =>
      have := hs.transCmp_orderAlong ascending
      have := ih hrest directions
      -- the first source decides, and the rest where it is level
      exact inferInstanceAs (Std.TransCmp (compareLex
        (fun i j => Cell.orderAlong ascending (s.cell i) (s.cell j))
        fun i j => Cell.orderTuples directions (tuple rest i) (tuple rest j)))

/-- Tuples of cells split rows when each source does. -/
theorem sameTuples_trans {sources : List Source} (h : ∀ s ∈ sources, s.SplitsRows) {i j k : Nat}
    (hij : Cell.sameTuples (tuple sources i) (tuple sources j) = true)
    (hjk : Cell.sameTuples (tuple sources j) (tuple sources k) = true) :
    Cell.sameTuples (tuple sources i) (tuple sources k) = true := by
  induction sources with
  | nil => rfl
  | cons s rest ih =>
    obtain ⟨hs, hrest⟩ := List.forall_mem_cons.mp h
    simp only [tuple, List.map_cons, Cell.sameTuples, Bool.and_eq_true] at hij hjk ⊢
    exact ⟨hs i j k hij.1 hjk.1, ih hrest hij.2 hjk.2⟩

end Source

end WindowQuery
