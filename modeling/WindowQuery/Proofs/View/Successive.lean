import WindowQuery.Proofs.View.Lexicographic

/-!
# Sorting by one key at a time

A partition can be sorted by its last key, the result by the key before that, and so on up to the
first (`Partition.sort_in_turn`). Each sort starts from the rows as the one before it has left them,
which makes these the order of arrival that its own ties keep (`View.relisted`): rows that are level
along the keys sorted by later stand as the keys sorted by earlier have put them. That is the
lexicographic order, and there is only one stable order of slots.
-/

namespace WindowQuery

/-- Rows that are level along the first keys are compared along the others. -/
theorem Table.rowOrder_append {t : Table} (front rest : List SortKey) (r r' : Nat) :
    t.rowOrder (front ++ rest) r r' = (t.rowOrder front r r').then (t.rowOrder rest r r') := by
  induction front with
  | nil => rfl
  | cons key front ih =>
    rw [List.cons_append, rowOrder_cons, rowOrder_cons, ih, Ordering.then_assoc]

/-- The rows of a view as a partition of their own, which arrive in the order of the view. -/
def View.relisted (v : View) : Partition := ⟨v.partition.table, v.sortedRows.toArray⟩

namespace View

variable {v : View}

@[simp] theorem table_relisted : v.relisted.table = v.partition.table := rfl

@[simp] theorem size_relisted : v.relisted.size = v.size := by
  simp [relisted, Partition.size, sortedRows, size]

/-- The slots of the rows of a view are its positions. -/
theorem rowOfSlot_relisted {i : Nat} (hi : i < v.size) : v.relisted.rowOfSlot i = v.rowAt i := by
  have hi' : i < v.slots.size := hi
  simp [relisted, Partition.rowOfSlot, sortedRows, rowAt, slotAt, hi']

end View

namespace Partition

/-- **Stable orders compose**: first by the last keys, and then what that gives by the first. -/
theorem StablySorted.append {p : Partition} {front rest : List SortKey} {w : View}
    (hw : w.partition = p) (h : p.StablySorted rest w.slots.toList) {slots : List Nat}
    (hslots : w.relisted.StablySorted front slots) :
    p.StablySorted (front ++ rest) (slots.map w.slotAt) := by
  subst hw
  obtain ⟨perm, inOrder⟩ := stablySorted_iff.mp h
  obtain ⟨perm', inOrder'⟩ := stablySorted_iff.mp hslots
  rw [View.size_relisted] at perm'
  refine stablySorted_iff.mpr ⟨(perm'.map w.slotAt).trans ?_, List.pairwise_map.mpr ?_⟩
  · rwa [View.map_slotAt_range]
  · refine inOrder'.imp_of_mem fun {i j} hi hj hij => ?_
    have hi' : i < w.size := List.mem_range.mp (perm'.mem_iff.mp hi)
    have hj' : j < w.size := List.mem_range.mp (perm'.mem_iff.mp hj)
    rw [Precedes, View.rowOfSlot_relisted hi', View.rowOfSlot_relisted hj', View.rowAt,
      View.rowAt, View.table_relisted] at hij
    rw [Precedes, Table.rowOrder_append]
    rcases hij with hlt | ⟨hlevel, hlt⟩
    · exact .inl (by rw [hlt]; rfl)
    · -- rows that are level along the first keys stand as the last keys left them
      rw [hlevel]
      exact View.rel_slotAt inOrder hlt hj'

variable {p : Partition}

/-- Sorting by some keys and then by others gives the same rows as sorting by all of them. -/
theorem sort_append {front rest : List SortKey} (h : p.table.Orders (front ++ rest))
    (threshold threshold' threshold'' : Nat) :
    ∃ v w u, p.sort (front ++ rest) threshold = .ok v ∧ p.sort rest threshold' = .ok w ∧
      w.relisted.sort front threshold'' = .ok u ∧ v.partition = p ∧ w.partition = p ∧
      u.partition = w.relisted ∧ u.sortedRows = v.sortedRows := by
  obtain ⟨v, hv, hvp, -, vsorted⟩ := exists_stablySorted h threshold
  obtain ⟨w, hw, hwp, -, wsorted⟩ :=
    exists_stablySorted (h.of_subset (List.subset_append_right _ _)) threshold'
  have hfront : w.relisted.table.Orders front := by
    rw [View.table_relisted, hwp]
    exact h.of_subset (List.subset_append_left _ _)
  obtain ⟨u, hu, hup, -, usorted⟩ := exists_stablySorted hfront threshold''
  refine ⟨v, w, u, hv, hw, hu, hvp, hwp, hup, ?_⟩
  have slots : u.slots.toList.map w.slotAt = v.slots.toList :=
    (wsorted.append hwp usorted).unique vsorted
  have inside : ∀ i ∈ u.slots.toList, i < w.size := fun i hi => by
    rw [← View.size_relisted]
    exact List.mem_range.mp (usorted.perm.mem_iff.mp hi)
  rw [View.sortedRows, View.sortedRows, ← slots, List.map_map, hup, hvp]
  refine List.map_congr_left fun i hi => ?_
  rw [View.rowOfSlot_relisted (inside i hi), View.rowAt, hwp]
  rfl

/-- Sorting by the keys one at a time, the last one first, lists the rows as sorting by all of them
does. -/
theorem foldrM_sort {sortKeys : List SortKey} (h : p.table.Orders sortKeys)
    (threshold threshold' : Nat) :
    ∃ v, p.sort sortKeys threshold = .ok v ∧
      sortKeys.foldrM (fun key q => (q.sort [key] threshold').map View.relisted) p =
        .ok v.relisted := by
  induction sortKeys with
  | nil =>
    refine ⟨p.arrivalView, rfl, congrArg Except.ok ?_⟩
    have slots : p.arrivalView.slots.toList = List.range p.size := Array.toList_range
    have rows : p.arrivalView.sortedRows = p.rows.toList := by
      rw [View.sortedRows, slots]
      exact p.map_rowOfSlot_range
    rw [View.relisted, rows]
    rfl
  | cons key rest ih =>
    obtain ⟨w, hw, chain⟩ := ih (h.of_subset (List.subset_cons_self key rest))
    have keys : p.table.Orders ([key] ++ rest) := h
    -- sorting by the first key last adds it in front of the others
    obtain ⟨v, w', u, hv, hw', hu, hvp, hwp, hup, rows⟩ :=
      sort_append keys threshold threshold threshold'
    cases hw.symm.trans hw'
    have same : u.relisted = v.relisted := by
      rw [View.relisted, View.relisted, rows, hup, View.table_relisted, hwp, hvp]
    refine ⟨v, hv, ?_⟩
    rw [List.foldrM_cons, chain, ← same]
    exact congrArg (Except.map View.relisted) hu

/-- **Keys can be sorted by one at a time**, the last one first. -/
theorem sort_in_turn {sortKeys : List SortKey} (h : p.table.Orders sortKeys) :
    (∀ first rest, sortKeys = first :: rest → ∀ threshold threshold' threshold'', ∃ v w u,
      p.sort sortKeys threshold = .ok v ∧ p.sort rest threshold' = .ok w ∧
        w.relisted.sort [first] threshold'' = .ok u ∧ u.sortedRows = v.sortedRows) ∧
    ∀ threshold threshold', ∃ v, p.sort sortKeys threshold = .ok v ∧
      sortKeys.foldrM (fun key q => (q.sort [key] threshold').map View.relisted) p =
        .ok v.relisted := by
  refine ⟨?_, foldrM_sort h⟩
  rintro first rest rfl threshold threshold' threshold''
  have keys : p.table.Orders ([first] ++ rest) := h
  obtain ⟨v, w, u, hv, hw, hu, -, -, -, rows⟩ :=
    sort_append keys threshold threshold' threshold''
  exact ⟨v, w, u, hv, hw, hu, rows⟩

/-- Times of runners by club, one of them missing. -/
private def clubs : Column := ⟨"club", .text #[some "b", some "a", some "b", some "a", some "b"]⟩

private def times : Column := ⟨"time", .int64 #[some 7, none, some 9, some 8, some 7]⟩

/-- The runners, listed from the last row to the first. -/
private def runners : Partition :=
  ⟨⟨[.typed clubs, .typed times], [("time", 1), ("club", 0)]⟩, #[4, 3, 2, 1, 0]⟩

/-- The slowest runner of each club first: the two that tie arrive in the order of the list. -/
theorem sort_in_turn_runners :
    ∃ v w u, runners.sort [⟨"club", true⟩, ⟨"time", false⟩] 2 = .ok v ∧
      runners.sort [⟨"time", false⟩] 9 = .ok w ∧ w.sortedRows = [2, 3, 4, 0, 1] ∧
      w.relisted.sort [⟨"club", true⟩] 2 = .ok u ∧
      u.sortedRows = v.sortedRows ∧ v.sortedRows = [3, 1, 2, 4, 0] := by
  have orders : runners.table.Orders [⟨"club", true⟩, ⟨"time", false⟩] :=
    List.forall_mem_cons.mpr ⟨⟨_, rfl, Source.ordersCells_typed clubs⟩,
      List.forall_mem_cons.mpr ⟨⟨_, rfl, Source.ordersCells_typed times⟩, by simp⟩⟩
  obtain ⟨v, w, u, hv, hw, hu, rows⟩ := (sort_in_turn orders).1 _ _ rfl 2 9 2
  have listed : (runners.sort [⟨"club", true⟩, ⟨"time", false⟩] 2).map View.sortedRows =
      .ok [3, 1, 2, 4, 0] := by cbv
  have relisted : (runners.sort [⟨"time", false⟩] 9).map View.sortedRows =
      .ok [2, 3, 4, 0, 1] := by cbv
  rw [hv] at listed
  rw [hw] at relisted
  exact ⟨v, w, u, hv, hw, Except.ok.inj relisted, hu, rows, Except.ok.inj listed⟩

end Partition

end WindowQuery
