import WindowQuery.View.Basic

/-!
# Complete views

A view is complete when its slots are those of its partition, in some order. Every view that
arranges a partition is, whether it sorts or keeps the order of arrival. Completeness is all that
writing results back by slot relies on: positions and slots correspond one to one.
-/

namespace WindowQuery

/-- The row in a slot of a partition. -/
theorem Partition.getElem?_rows {p : Partition} {slot : Nat} (hslot : slot < p.size) :
    p.rows.toList[slot]? = some (p.rowOfSlot slot) := by
  have hslot' : slot < p.rows.size := hslot
  simp [rowOfSlot, hslot']

theorem Partition.map_rowOfSlot_range (p : Partition) :
    (List.range p.size).map p.rowOfSlot = p.rows.toList := by
  refine List.ext_getElem (by simp [Partition.size]) fun slot hslot hslot' => ?_
  have read : p.rows.toList[slot]? = _ := Partition.getElem?_rows hslot'
  rw [List.getElem?_eq_getElem hslot'] at read
  simpa using (Option.some.inj read).symm

namespace View

/-- The slots of the view are those of its partition, each **once**. -/
def Complete (v : View) : Prop := v.slots.toList.Perm (List.range v.partition.size)

/-- The slot at a position inside the view. -/
theorem getElem?_slots {v : View} {q : Nat} (hq : q < v.size) : v.slots[q]? = some (v.slotAt q) := by
  have hq' : q < v.slots.size := hq
  simp [slotAt, hq']

theorem map_slotAt_range (v : View) : (List.range v.size).map v.slotAt = v.slots.toList := by
  refine List.ext_getElem (by simp [size]) fun q hq hq' => ?_
  have read := getElem?_slots (v := v) (q := q) hq'
  rw [← Array.getElem?_toList, List.getElem?_eq_getElem hq'] at read
  simpa using (Option.some.inj read).symm

/-- What holds along the slots holds between the slots of positions. -/
theorem rel_slotAt {v : View} {R : Nat → Nat → Prop} (h : v.slots.toList.Pairwise R) {i j : Nat}
    (hij : i < j) (hj : j < v.size) : R (v.slotAt i) (v.slotAt j) := by
  have hj' : j < v.slots.toList.length := hj
  have hi' : i < v.slots.toList.length := Nat.lt_trans hij hj'
  have slot {q : Nat} (hq : q < v.slots.toList.length) : v.slots.toList[q] = v.slotAt q := by
    have read := getElem?_slots (v := v) (q := q) hq
    rw [← Array.getElem?_toList, List.getElem?_eq_getElem hq] at read
    exact Option.some.inj read
  rw [← slot hi', ← slot hj']
  exact List.pairwise_iff_getElem.mp h i j hi' hj' hij

theorem complete_arrivalView (p : Partition) : p.arrivalView.Complete := by
  have slots : p.arrivalView.slots.toList = List.range p.size := Array.toList_range
  rw [Complete, slots]
  exact List.Perm.refl _

namespace Complete

variable {v : View} (h : v.Complete) {q : Nat}
include h

theorem size_eq : v.size = v.partition.size := by
  have length := List.Perm.length_eq h
  rwa [List.length_range, Array.length_toList] at length

theorem slotAt_lt (hq : q < v.size) : v.slotAt q < v.partition.size := by
  have member := Array.mem_toList_iff.mpr (Array.mem_of_getElem? (getElem?_slots hq))
  exact List.mem_range.mp ((List.Perm.mem_iff h).mp member)

theorem nodup_slots : v.slots.toList.Nodup := (List.Perm.nodup_iff h).mpr List.nodup_range

/-- Different positions have different slots. -/
theorem slotAt_inj {i j : Nat} (hi : i < v.size) (hj : j < v.size)
    (heq : v.slotAt i = v.slotAt j) : i = j := by
  rcases Nat.lt_trichotomy i j with hlt | heq' | hgt
  · exact absurd heq (rel_slotAt h.nodup_slots hlt hj)
  · exact heq'
  · exact absurd heq.symm (rel_slotAt h.nodup_slots hgt hi)

/-- Every slot has a position. -/
theorem exists_slotAt_eq {a : Nat} (ha : a < v.partition.size) : ∃ q < v.size, v.slotAt q = a := by
  have member := (List.Perm.mem_iff h).mpr (List.mem_range.mpr ha)
  obtain ⟨q, hq, hslot⟩ := List.mem_iff_getElem.mp member
  have hq' : q < v.size := hq
  have read := getElem?_slots hq'
  rw [← Array.getElem?_toList, List.getElem?_eq_getElem hq, hslot] at read
  exact ⟨q, hq', (Option.some.inj read).symm⟩

/-- Different positions have different rows where the partition repeats none. -/
theorem rowAt_inj (hrows : v.partition.rows.toList.Nodup) {i j : Nat} (hi : i < v.size)
    (hj : j < v.size) (heq : v.rowAt i = v.rowAt j) : i = j := by
  refine h.slotAt_inj hi hj ?_
  have row {q : Nat} (hq : q < v.size) := Partition.getElem?_rows (h.slotAt_lt hq)
  have hi' := (List.getElem?_eq_some_iff.mp (row hi)).1
  refine (List.getElem?_inj hi' hrows).mp ?_
  rw [row hi, row hj]
  exact congrArg some heq

/-- The row at a position is one of the partition. -/
theorem rowAt_mem (hq : q < v.size) : v.rowAt q ∈ v.partition.rows.toList :=
  List.mem_of_getElem? (Partition.getElem?_rows (h.slotAt_lt hq))

/-- The row in a slot has the position of the slot. -/
theorem exists_rowAt_eq {slot row : Nat} (hrow : v.partition.rows.toList[slot]? = some row) :
    ∃ q < v.size, v.slotAt q = slot ∧ v.rowAt q = row := by
  have hslot : slot < v.partition.size := (List.getElem?_eq_some_iff.mp hrow).1
  obtain ⟨q, hq, rfl⟩ := h.exists_slotAt_eq hslot
  rw [Partition.getElem?_rows hslot] at hrow
  exact ⟨q, hq, rfl, Option.some.inj hrow⟩

end Complete

end View

end WindowQuery
