import WindowQuery.Proofs.View.Matching
import WindowQuery.Proofs.View.TieGroups

/-!
# Views in the opposite direction

Where every key sorts the other way (`SortKey.flip`), rows compare the other way round
(`Table.rowOrder_flip`). The sort is still stable, so the view is not read backwards as a whole: its
groups of ties are (`View.Opposed.tieGroups_eq`), each in order of arrival as before. Only where no
two rows tie do the slots themselves come in reverse (`View.Opposed.slots_eq`).
-/

namespace WindowQuery

/-! ### Keys -/

/-- The key in the other direction. -/
def SortKey.flip (key : SortKey) : SortKey := ⟨key.column, !key.ascending⟩

namespace Table

variable {t : Table} {sortKeys : List SortKey}

theorem keyOrder_flip (key : SortKey) (r r' : Nat) :
    t.keyOrder key.flip r r' = t.keyOrder key r' r := by
  cases hdirection : key.ascending <;>
    simp [keyOrder, SortKey.flip, Cell.orderAlong, hdirection, Cell.order_swap]

theorem rowOrder_flip (sortKeys : List SortKey) (r r' : Nat) :
    t.rowOrder (sortKeys.map SortKey.flip) r r' = t.rowOrder sortKeys r' r := by
  induction sortKeys with
  | nil => rfl
  | cons key rest ih => rw [List.map_cons, rowOrder_cons, rowOrder_cons, keyOrder_flip, ih]

end Table

/-! ### Runs from the other end -/

/-- Where runs are counted from the other end, each ends where it started as seen from there. -/
theorem Runs.startOf_reversed {size : Nat} {same same' : Nat → Nat → Bool} {π : Nat → Nat}
    (hπ : Rearranges size π)
    (h : ∀ q < size, (ofSame size same').indexOf q =
      (ofSame size same).count - 1 - (ofSame size same).indexOf (π q)) {run : Nat}
    (hrun : run ≤ (ofSame size same).count) :
    (ofSame size same').startOf run +
      (ofSame size same).startOf ((ofSame size same).count - run) = size := by
  have behind : (ofSame size same').startOf run = (List.range size).countP fun q =>
      decide ¬ decide ((ofSame size same).indexOf q < (ofSame size same).count - run) = true := by
    rw [startOf_eq_countP]
    refine Eq.trans ?_ (hπ.map_range_perm.countP_eq _)
    rw [List.countP_map]
    refine List.countP_congr fun q hq => ?_
    have hq' := List.mem_range.mp hq
    have bound := (numbers_indexOf size same).lt _ (hπ.lt q hq')
    rw [h q hq']
    simp only [Function.comp_apply, decide_eq_true_eq]
    omega
  rw [behind, startOf_eq_countP, Nat.add_comm, ← List.length_eq_countP_add_countP,
    List.length_range]

namespace View

/-- Two views of a partition are **opposed**: one sorts it by the flipped keys of the other. -/
structure Opposed (v v' : View) (sources : List Source) : Prop where
  partition : v'.partition = v.partition
  sortKeys : v'.sortKeys = v.sortKeys.map SortKey.flip
  sorted : v.SortedBy sources
  sorted' : v'.SortedBy sources
  orders : ∀ s ∈ sources, s.OrdersRows

/-- One view counts the groups of ties of another from the other end: the position `q` of the one
has the slot of the position `π q` of the other. -/
structure Reversal (v v' : View) (π : Nat → Nat) : Prop where
  rearranges : Rearranges v.size π
  slotAt : ∀ q < v.size, v.slotAt (π q) = v'.slotAt q
  count : v'.ties.count = v.ties.count
  indexOf : ∀ q < v.size, v'.ties.indexOf q + v.ties.indexOf (π q) + 1 = v.ties.count
  startOf : ∀ run ≤ v.ties.count,
    v'.ties.startOf run + v.ties.startOf (v.ties.count - run) = v.size

namespace Opposed

variable {v v' : View} {sources : List Source} (h : v.Opposed v' sources)
include h

theorem size_eq : v'.size = v.size := by
  rw [h.sorted.complete.size_eq, h.sorted'.complete.size_eq, h.partition]

/-- Two opposed views are reversals of each other: the groups are reversed, and each is kept. -/
theorem exists_reversal : ∃ π, v.Reversal v' π := by
  obtain ⟨π, hπ, slots⟩ := h.sorted.complete.exists_rearranges h.sorted'.complete h.partition
  have rows : ∀ q < v.size, v'.rowAt q = v.rowAt (π q) := by
    intro q hq
    rw [rowAt, rowAt, slots q hq, h.partition]
  have order : ∀ i < v.size, ∀ j < v.size, v'.tieOrder i j = v.tieOrder (π j) (π i) := by
    intro i hi j hj
    have hi' : i < v'.size := by rwa [h.size_eq]
    have hj' : j < v'.size := by rwa [h.size_eq]
    rw [h.sorted'.tieOrder_eq_rowOrder hi' hj', h.partition, h.sortKeys, Table.rowOrder_flip,
      rows i hi, rows j hj, ← h.sorted.tieOrder_eq_rowOrder (hπ.lt j hj) (hπ.lt i hi)]
  have inOrder := h.sorted'.inOrder_tieOrder h.orders
  rw [h.size_eq] at inOrder
  obtain ⟨indexOf, count⟩ := (h.sorted.inOrder_tieOrder h.orders).indexOf_reversed inOrder hπ order
  have ties' : v'.ties = Runs.ofSame v.size (Runs.level v'.tieOrder) := by
    rw [← h.size_eq]
    exact h.sorted'.ties_eq
  refine ⟨π, hπ, slots, ?_, fun q hq => ?_, fun run hrun => ?_⟩
  · rw [h.sorted.ties_eq, ties', count]
  · have bound := (Runs.numbers_indexOf v.size (Runs.level v.tieOrder)).lt _ (hπ.lt q hq)
    rw [h.sorted.ties_eq, ties', indexOf q hq]
    omega
  · rw [h.sorted.ties_eq] at hrun ⊢
    rw [ties']
    exact Runs.startOf_reversed hπ indexOf hrun

/-- A group has the same slots, and a number counted from the other end. -/
theorem tieGroup_eq {g : Nat} (hg : g < v.ties.count) :
    v'.tieGroup g = v.tieGroup (v.ties.count - 1 - g) := by
  obtain ⟨π, reversal⟩ := h.exists_reversal
  refine List.Pairwise.eq_of_mem_iff (h.sorted'.pairwise_tieGroup h.orders g)
    (h.sorted.pairwise_tieGroup h.orders _) fun slot => ?_
  rw [h.sorted'.mem_tieGroup_iff, h.sorted.mem_tieGroup_iff, h.size_eq]
  constructor
  · rintro ⟨q, hq, rfl, rfl⟩
    have index := reversal.indexOf q hq
    exact ⟨π q, reversal.rearranges.lt q hq, by omega, reversal.slotAt q hq⟩
  · rintro ⟨j, hj, hindex, rfl⟩
    obtain ⟨q, hq, rfl⟩ := reversal.rearranges.onto j hj
    have index := reversal.indexOf q hq
    exact ⟨q, hq, by omega, (reversal.slotAt q hq).symm⟩

/-- **The groups of ties come in the opposite sequence**, each as it was. -/
theorem tieGroups_eq : v'.tieGroups = v.tieGroups.reverse := by
  obtain ⟨π, reversal⟩ := h.exists_reversal
  refine List.ext_getElem (by simp [tieGroups, reversal.count]) fun g _ hg => ?_
  have inside : g < v.ties.count := by simpa [tieGroups] using hg
  simp [tieGroups, h.tieGroup_eq inside]

/-- **Where no two rows tie the whole view is read backwards.** -/
theorem slots_eq (distinct : ∀ a < v.partition.size, ∀ b < v.partition.size, a ≠ b →
      ¬ v.partition.table.Ties v.sortKeys (v.partition.rowOfSlot a) (v.partition.rowOfSlot b)) :
    v'.slots.toList = v.slots.toList.reverse := by
  have sorted := h.sorted'.stablySorted h.orders
  rw [h.partition] at sorted
  refine sorted.unique (Partition.stablySorted_iff.mpr ⟨?_, ?_⟩)
  · exact (List.reverse_perm _).trans h.sorted.complete
  · have inOrder := (Partition.stablySorted_iff.mp (h.sorted.stablySorted h.orders)).2
    refine List.pairwise_reverse.mpr (inOrder.imp_of_mem fun {a b} ha hb hab => ?_)
    have inside {slot : Nat} (hslot : slot ∈ v.slots.toList) : slot < v.partition.size :=
      List.mem_range.mp (h.sorted.complete.mem_iff.mp hslot)
    rw [Precedes, h.sortKeys, Table.rowOrder_flip]
    rcases hab with hlt | ⟨hlevel, hlt⟩
    · exact .inl hlt
    · exact absurd (Table.rowOrder_eq_eq_iff.mp hlevel)
        (distinct a (inside ha) b (inside hb) (Nat.ne_of_lt hlt))

end Opposed

end View

end WindowQuery
