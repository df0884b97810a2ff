import WindowQuery.Proofs.Table.Order
import WindowQuery.Proofs.View.Sorted

/-!
# Sorted views by rows

A sorted view read through its rows: the order value of a position is the cell of its row in the
column of the first key (`View.SortedBy.orderValueAt_eq_cell`), and positions are compared as their
rows are (`View.SortedBy.tieOrder_eq_rowOrder`). When every source orders rows, positions are in the
order of their rows (`View.SortedBy.inOrder_tieOrder`), and ties are the runs of rows that tie.
-/

namespace WindowQuery.View

theorem tieOrder_swap (v : View) (i j : Nat) : (v.tieOrder i j).swap = v.tieOrder j i :=
  Cell.orderTuples_swap _ _ _

@[simp] theorem tieOrder_self (v : View) (i : Nat) : v.tieOrder i i = .eq := by
  have swap := v.tieOrder_swap i i
  cases h : v.tieOrder i i <;> rw [h] at swap <;> first | rfl | cases swap

namespace SortedBy

variable {v : View} {sources : List Source} (h : v.SortedBy sources) {i j : Nat}
include h

/-- The order value of a position is the cell of its row in the column of the first key. -/
theorem orderValueAt_eq_cell {first : SortKey} {others : List SortKey}
    (hkeys : v.sortKeys = first :: others) (hi : i < v.size) :
    v.orderValueAt i = v.partition.table.cell first.column (v.rowAt i) := by
  have columns := h.columns
  rw [hkeys] at columns
  obtain ⟨s, rest, hs, -, hsources⟩ := mapM_cons_ok.mp columns
  rw [h.orderValueAt_eq hsources hi, Table.cell_eq hs]

/-- Positions are compared as their rows are. -/
theorem tieOrder_eq_rowOrder (hi : i < v.size) (hj : j < v.size) :
    v.tieOrder i j = v.partition.table.rowOrder v.sortKeys (v.rowAt i) (v.rowAt j) := by
  rw [Table.rowOrder, h.tieOrder_eq hi hj, Table.tuple_eq h.columns, Table.tuple_eq h.columns]

/-- **Positions are in the order of their rows.** -/
theorem inOrder_tieOrder (hsources : ∀ s ∈ sources, s.OrdersRows) :
    Runs.InOrder v.size v.tieOrder := by
  refine ⟨v.tieOrder_swap, fun i j k hi hj hk => ?_, fun i j hij hj => ?_⟩
  · rw [h.tieOrder_eq hi hj, h.tieOrder_eq hj hk, h.tieOrder_eq hi hk]
    exact (Source.transCmp_orderTuples hsources _).isLE_trans
  · rcases Nat.lt_or_eq_of_le hij with hlt | rfl
    · rcases h.precedes_slotAt hsources hlt hj with hbefore | ⟨hties, -⟩
      · rw [hbefore]
        rfl
      · rw [hties]
        rfl
    · rw [v.tieOrder_self]
      rfl

end SortedBy

end WindowQuery.View
