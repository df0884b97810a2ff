import WindowQuery.Proofs.View.Rows

/-!
# Sorted views of partitions in table order

Partitions list their rows in table order. In a sorted view of such a partition a position comes
no later than another exactly when its row does: by its keys, or by its place in the table when
the rows tie on all of them (`View.SortedBy.le_iff_row`).
-/

namespace WindowQuery

/-- Slots of a partition in table order stand in the order of their rows. -/
theorem Partition.rowOfSlot_lt {p : Partition} (hrows : p.rows.toList.Pairwise (· < ·)) {a b : Nat}
    (hab : a < b) (hb : b < p.size) : p.rowOfSlot a < p.rowOfSlot b := by
  have hb' : b < p.rows.toList.length := hb
  have ha' : a < p.rows.toList.length := Nat.lt_trans hab hb'
  have ascending := List.pairwise_iff_getElem.mp hrows a b ha' hb' hab
  have row {slot : Nat} (hslot : slot < p.rows.toList.length) :
      p.rows.toList[slot] = p.rowOfSlot slot := by
    have read := getElem?_rows (p := p) hslot
    rwa [List.getElem?_eq_getElem hslot, Option.some.injEq] at read
  rwa [row ha', row hb'] at ascending

namespace View

namespace SortedBy

variable {v : View} {sources : List Source} (h : v.SortedBy sources)
  (hsources : ∀ s ∈ sources, s.OrdersRows) (hrows : v.partition.rows.toList.Pairwise (· < ·))
  {i j : Nat}
include h hsources hrows

/-- Earlier positions have earlier keys, or the same keys and earlier rows. -/
theorem precedes_rowAt (hij : i < j) (hj : j < v.size) :
    v.tieOrder i j = .lt ∨ v.tieOrder i j = .eq ∧ v.rowAt i < v.rowAt j := by
  refine (h.precedes_slotAt hsources hij hj).imp_right fun ⟨hlevel, hslot⟩ => ⟨hlevel, ?_⟩
  exact Partition.rowOfSlot_lt hrows hslot (h.complete.slotAt_lt hj)

/-- **Positions are compared by keys, then by rows.** -/
theorem le_iff_row (hi : i < v.size) (hj : j < v.size) :
    i ≤ j ↔ v.tieOrder i j = .lt ∨ v.tieOrder i j = .eq ∧ v.rowAt i ≤ v.rowAt j := by
  rcases Nat.lt_trichotomy i j with hlt | rfl | hgt
  · refine iff_of_true (Nat.le_of_lt hlt) ?_
    exact (h.precedes_rowAt hsources hrows hlt hj).imp_right fun ⟨hlevel, hrow⟩ =>
      ⟨hlevel, Nat.le_of_lt hrow⟩
  · exact iff_of_true (Nat.le_refl i) (.inr ⟨v.tieOrder_self i, Nat.le_refl _⟩)
  · refine iff_of_false (Nat.not_le.mpr hgt) ?_
    rw [← v.tieOrder_swap j i]
    rcases h.precedes_rowAt hsources hrows hgt hi with hlt | ⟨hlevel, hrow⟩
    · simp [hlt]
    · simp only [hlevel, Ordering.swap_eq, reduceCtorEq, true_and, false_or]
      exact Nat.not_le.mpr hrow

end SortedBy

end View

end WindowQuery
