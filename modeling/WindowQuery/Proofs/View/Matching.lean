import WindowQuery.Proofs.View.Numbering
import WindowQuery.Proofs.View.Rows

/-!
# Views that correspond

Two views correspond along a rearrangement of their positions. What they have to agree in for this
depends on what is read of them: order values (`View.ValuesMatch`), rows (`View.RowsMatch`), or
groups of ties (`View.TiesMatch`). Complete views of one partition always correspond through their
slots (`View.Complete.exists_rearranges`), and views of partitions that hold the same rows through
these (`View.Complete.exists_rowsMatch`). Sorting then leaves the same ties
(`View.SortedBy.tiesMatch`).

Throughout, a rearrangement leads from the positions of the second view to those of the first.
-/

namespace WindowQuery.View

/-! ### Order values -/

/-- The order values of one view stand in another one too, at positions that are rearranged. -/
structure ValuesMatch (v v' : View) (π : Nat → Nat) : Prop where
  size : v'.size = v.size
  rearranges : Rearranges v.size π
  orderValueAt : ∀ q < v.size, v'.orderValueAt q = v.orderValueAt (π q)

/-- The order values of both views are of one kind. -/
theorem ValuesMatch.hasKind {v v' : View} {π : Nat → Nat} (h : v.ValuesMatch v' π) {kind : Kind}
    (hcells : ∀ q, q < v.size → (v.orderValueAt q).hasKind kind = true) :
    ∀ q, q < v'.size → (v'.orderValueAt q).hasKind kind = true := by
  intro q hq
  rw [h.size] at hq
  rw [h.orderValueAt q hq]
  exact hcells _ (h.rearranges.lt q hq)

/-! ### Slots and rows -/

/-- The rows of one view stand in another one too, at positions that are rearranged and under other
numbers, which are carried over. -/
structure RowsMatch (v v' : View) (carry π : Nat → Nat) : Prop where
  size : v'.size = v.size
  rearranges : Rearranges v.size π
  rowAt : ∀ q < v.size, v.rowAt (π q) = carry (v'.rowAt q)

namespace Complete

variable {v v' : View} (h : v.Complete) (h' : v'.Complete)
include h

theorem exists_slotAt_iff {slot : Nat} :
    (∃ q < v.size, v.slotAt q = slot) ↔ slot < v.partition.size := by
  constructor
  · rintro ⟨q, hq, rfl⟩
    exact h.slotAt_lt hq
  · exact h.exists_slotAt_eq

theorem exists_rowAt_iff {row : Nat} :
    (∃ q < v.size, v.rowAt q = row) ↔ row ∈ v.partition.rows.toList := by
  constructor
  · rintro ⟨q, hq, rfl⟩
    exact h.rowAt_mem hq
  · intro hrow
    obtain ⟨slot, hslot⟩ := List.mem_iff_getElem?.mp hrow
    obtain ⟨q, hq, -, hrow⟩ := h.exists_rowAt_eq hslot
    exact ⟨q, hq, hrow⟩

include h'

/-- Complete views of one partition list the same slots. -/
theorem exists_rearranges (hpartition : v'.partition = v.partition) :
    ∃ π, Rearranges v.size π ∧ ∀ q < v.size, v.slotAt (π q) = v'.slotAt q := by
  have size : v'.size = v.size := by rw [h.size_eq, h'.size_eq, hpartition]
  refine Rearranges.exists_of_image (fun i hi j hj => ?_) (fun i hi j hj => h.slotAt_inj hi hj)
    fun slot => ?_
  · rw [← size] at hi hj
    exact h'.slotAt_inj hi hj
  · rw [h.exists_slotAt_iff, ← size, h'.exists_slotAt_iff, hpartition]

/-- **Complete views of the same rows correspond**, whatever numbers the rows have in each. -/
theorem exists_rowsMatch {carry : Nat → Nat} (once : v.partition.rows.toList.Nodup)
    (perm : (v'.partition.rows.toList.map carry).Perm v.partition.rows.toList) :
    ∃ π, v.RowsMatch v' carry π := by
  have size : v'.size = v.size := by
    rw [h.size_eq, h'.size_eq]
    simpa [Partition.size] using perm.length_eq
  -- rows that are carried to the same row stand in the same slot
  have carried {i j : Nat} (hi : i < v'.size) (hj : j < v'.size)
      (heq : carry (v'.rowAt i) = carry (v'.rowAt j)) : i = j := by
    have row {q : Nat} (hq : q < v'.size) :
        (v'.partition.rows.toList.map carry)[v'.slotAt q]? = some (carry (v'.rowAt q)) := by
      rw [List.getElem?_map, Partition.getElem?_rows (h'.slotAt_lt hq)]
      rfl
    have hi' := (List.getElem?_eq_some_iff.mp (row hi)).1
    refine h'.slotAt_inj hi hj ((List.getElem?_inj hi' (perm.nodup_iff.mpr once)).mp ?_)
    rw [row hi, row hj, heq]
  have image (row : Nat) : (∃ q < v'.size, carry (v'.rowAt q) = row) ↔
      ∃ q < v.size, v.rowAt q = row := by
    rw [h.exists_rowAt_iff, ← perm.mem_iff, List.mem_map]
    constructor
    · rintro ⟨q, hq, rfl⟩
      exact ⟨_, h'.rowAt_mem hq, rfl⟩
    · rintro ⟨row', hrow', rfl⟩
      obtain ⟨q, hq, rfl⟩ := h'.exists_rowAt_iff.mpr hrow'
      exact ⟨q, hq, rfl⟩
  rw [size] at carried image
  obtain ⟨π, hπ, rows⟩ := Rearranges.exists_of_image (fun i hi j hj => carried hi hj)
    (fun i hi j hj => h.rowAt_inj once hi hj) image
  exact ⟨π, size, hπ, rows⟩

end Complete

/-! ### Ties -/

/-- Positions that correspond are in groups of ties with the same number, and these have the same
places. -/
structure TiesMatch (v v' : View) (π : Nat → Nat) : Prop where
  indexOf : ∀ q < v.size, v'.ties.indexOf q = v.ties.indexOf (π q)
  span : ∀ run, v'.ties.span run = v.ties.span run

section

variable {v v' : View} {carry π : Nat → Nat} (h : v.RowsMatch v' carry π)
include h

/-- Without order all rows tie. -/
theorem RowsMatch.tiesMatch_arrival (hv : v = v.partition.arrivalView)
    (hv' : v' = v'.partition.arrivalView) : v.TiesMatch v' π := by
  have ties {w : View} (hw : w = w.partition.arrivalView) : w.ties = Runs.single w.size := by
    rw [hw]
    simp [Partition.arrivalView, View.size]
  have first {q size : Nat} : (Runs.single size).indexOf q = 0 := by
    simp only [Runs.indexOf, Runs.single, Array.getElem?_replicate]
    split <;> rfl
  constructor
  · intro q _
    rw [ties hv, ties hv', first, first]
  · intro run
    rw [ties hv, ties hv', h.size]

/-- **Sorting leaves the same ties** where rows that correspond compare alike. -/
theorem SortedBy.tiesMatch {sources sources' : List Source} (hv : v.SortedBy sources)
    (hv' : v'.SortedBy sources') (orders : ∀ s ∈ sources, s.OrdersRows)
    (orders' : ∀ s ∈ sources', s.OrdersRows)
    (horder : ∀ i < v.size, ∀ j < v.size, v'.tieOrder i j = v.tieOrder (π i) (π j)) :
    v.TiesMatch v' π := by
  have inOrder := hv'.inOrder_tieOrder orders'
  rw [h.size] at inOrder
  obtain ⟨indexOf, -⟩ := (hv.inOrder_tieOrder orders).indexOf_rearranged inOrder h.rearranges horder
  have startOf := Runs.startOf_eq_of_indexOf_eq h.rearranges indexOf
  rw [← hv.ties_eq] at indexOf startOf
  rw [← h.size, ← hv'.ties_eq] at indexOf startOf
  constructor
  · intro q hq
    exact indexOf q (h.size ▸ hq)
  · intro run
    rw [Runs.span, Runs.span, startOf, startOf]

end

end WindowQuery.View
