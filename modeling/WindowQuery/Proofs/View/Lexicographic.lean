import Mathlib
import WindowQuery.Proofs.View.Rows

/-!
# The stable lexicographic order

Sorting a partition puts its slots into the one order that is **stably sorted**
(`Partition.StablySorted`): no row stands behind one that it comes before, and rows that tie keep
their order of arrival. There is only one such order (`Partition.StablySorted.unique`), so nothing
else about the sort can be seen, in particular not whether it was carried out in halves
(`Partition.exists_sort_stable`). That there is one at all takes key columns whose cells comparison
orders (`Source.OrdersRows`): typed columns, and loose ones without a mixture that it cannot order.
-/

namespace WindowQuery

namespace Partition

/-- The slots of a partition are **stably sorted** by sort keys. -/
structure StablySorted (p : Partition) (sortKeys : List SortKey) (slots : List Nat) : Prop where
  perm : slots.Perm (List.range p.size)
  /-- No row comes before one that stands in front of it. -/
  sorted : slots.Pairwise fun a b =>
    ¬ p.table.Before sortKeys (p.rowOfSlot b) (p.rowOfSlot a)
  /-- Rows that tie keep their order of arrival. -/
  stable : slots.Pairwise fun a b =>
    p.table.Ties sortKeys (p.rowOfSlot a) (p.rowOfSlot b) → a < b

/-- One slot precedes another in the order of rows exactly when it may stand in front of it. -/
theorem precedes_rowOrder_iff {p : Partition} {sortKeys : List SortKey} {a b : Nat} :
    Precedes (fun a b => p.table.rowOrder sortKeys (p.rowOfSlot a) (p.rowOfSlot b)) a b ↔
      ¬ p.table.Before sortKeys (p.rowOfSlot b) (p.rowOfSlot a) ∧
        (p.table.Ties sortKeys (p.rowOfSlot a) (p.rowOfSlot b) → a < b) := by
  rw [← Table.rowOrder_eq_gt_iff, ← Table.rowOrder_eq_eq_iff, Precedes]
  cases p.table.rowOrder sortKeys (p.rowOfSlot a) (p.rowOfSlot b) <;> simp

theorem stablySorted_iff {p : Partition} {sortKeys : List SortKey} {slots : List Nat} :
    p.StablySorted sortKeys slots ↔ slots.Perm (List.range p.size) ∧ slots.Pairwise
      (Precedes fun a b => p.table.rowOrder sortKeys (p.rowOfSlot a) (p.rowOfSlot b)) := by
  rw [List.Pairwise.iff fun _ _ => precedes_rowOrder_iff, List.pairwise_and_iff]
  exact ⟨fun h => ⟨h.perm, h.sorted, h.stable⟩, fun ⟨perm, sorted, stable⟩ => ⟨perm, sorted, stable⟩⟩

/-- **There is one stable order** at most. -/
theorem StablySorted.unique {p : Partition} {sortKeys : List SortKey} {slots slots' : List Nat}
    (h : p.StablySorted sortKeys slots) (h' : p.StablySorted sortKeys slots') : slots = slots' := by
  obtain ⟨perm, inOrder⟩ := stablySorted_iff.mp h
  obtain ⟨perm', inOrder'⟩ := stablySorted_iff.mp h'
  refine List.Perm.eq_of_pairwise ?_ inOrder inOrder' (perm.trans perm'.symm)
  -- of two slots only one can stand in front of the other
  intro a b _ _ hab hba
  rw [Precedes] at hab hba
  rw [← Table.rowOrder_swap] at hba
  rcases hab with hlt | ⟨heq, hab⟩
  · simp [hlt] at hba
  · simp only [heq, Ordering.swap_eq, reduceCtorEq, true_and, false_or] at hba
    omega

end Partition

namespace View.SortedBy

variable {v : View} {sources : List Source} (h : v.SortedBy sources)
include h

/-- The slots of a sorted view are stably sorted. -/
theorem stablySorted (hsources : ∀ s ∈ sources, s.OrdersRows) :
    v.partition.StablySorted v.sortKeys v.slots.toList := by
  refine Partition.stablySorted_iff.mpr ⟨h.complete, ?_⟩
  have tuples (a b : Nat) : v.partition.table.rowOrder v.sortKeys (v.partition.rowOfSlot a)
      (v.partition.rowOfSlot b) = Cell.orderTuples (v.sortKeys.map SortKey.ascending)
        (Source.tuple sources (v.partition.rowOfSlot a))
        (Source.tuple sources (v.partition.rowOfSlot b)) := by
    rw [Table.rowOrder, Table.tuple_eq h.columns, Table.tuple_eq h.columns]
  simp only [tuples]
  exact h.pairwise_slots_precedes hsources

end View.SortedBy

/-- A partition is stably sorted by any keys whose columns order their cells, and by none. -/
theorem Partition.exists_stablySorted {p : Partition} {sortKeys : List SortKey}
    (h : p.table.Orders sortKeys) (threshold : Nat) :
    ∃ v : View, p.sort sortKeys threshold = .ok v ∧ v.partition = p ∧ v.sortKeys = sortKeys ∧
      p.StablySorted sortKeys v.slots.toList := by
  by_cases hkeys : sortKeys = []
  · subst hkeys
    have slots : p.arrivalView.slots.toList = List.range p.size := Array.toList_range
    refine ⟨p.arrivalView, rfl, rfl, rfl, ?_⟩
    rw [slots]
    exact stablySorted_iff.mpr ⟨.refl _, List.pairwise_lt_range.imp fun hlt => .inr ⟨rfl, hlt⟩⟩
  · obtain ⟨ss, hss, orders⟩ := h.exists_columnsOf
    obtain ⟨v, hsort, rfl, rfl, hv⟩ := p.exists_sort hkeys hss threshold
    exact ⟨v, hsort, rfl, rfl, hv.stablySorted orders⟩

/-- Along an ascending key only rows without a value stand in front of one without, and along a
descending key only those stand behind it. -/
theorem Table.null_of_keyOrder_ne_lt {t : Table} {key : SortKey} {r r' : Nat}
    (h : t.keyOrder key r' r ≠ .lt) :
    if key.ascending then t.cell key.column r' = .null → t.cell key.column r = .null
    else t.cell key.column r = .null → t.cell key.column r' = .null := by
  unfold keyOrder Cell.orderAlong at h
  split
  case isTrue hascending =>
    intro hnull
    rw [if_pos hascending, hnull] at h
    exact Cell.eq_null_of_order_ne_lt h
  case isFalse hdescending =>
    intro hnull
    rw [if_neg hdescending, Cell.order_swap, hnull] at h
    exact Cell.eq_null_of_order_ne_lt h

namespace Partition

/-- The order of slots is all that a sorted view adds to its partition and its columns. -/
theorem viewBy_eq_of_slots {p : Partition} {sortKeys : List SortKey} {sources : List Source}
    {threshold threshold' : Nat} (h : (p.viewBy sortKeys sources threshold).slots =
      (p.viewBy sortKeys sources threshold').slots) :
    p.viewBy sortKeys sources threshold = p.viewBy sortKeys sources threshold' := by
  unfold viewBy at h ⊢
  dsimp only at h ⊢
  rw [h]

/-- **Sorting gives the stable lexicographic order**, the only one there is, in any number of
steps. Rows without a value come first along an ascending first key and last along a descending
one. Where the column of a key is missing, the first such key is reported. -/
theorem exists_sort_stable {sources : List Source} {t : Table}
    (ht : Table.ofSources sources = .ok t) (rows : Array Nat) (first : SortKey)
    (others : List SortKey) :
    ((∀ key ∈ first :: others, ∃ s, t.column key.column = .ok s ∧ s.OrdersCells) →
      ∃ v : View, (∀ threshold, sort ⟨t, rows⟩ (first :: others) threshold = .ok v) ∧
        v.partition = ⟨t, rows⟩ ∧
        (∀ slots, StablySorted ⟨t, rows⟩ (first :: others) slots ↔ slots = v.slots.toList) ∧
        (∀ i < rows.size, v.orderValueAt i = t.cell first.column (v.rowAt i)) ∧
        ∀ i j, i < j → j < rows.size →
          if first.ascending then v.orderValueAt j = .null → v.orderValueAt i = .null
          else v.orderValueAt i = .null → v.orderValueAt j = .null) ∧
    ∀ front key back threshold, first :: others = front ++ key :: back →
      (∀ k ∈ front, k.column ∈ t.names) → key.column ∉ t.names →
        sort ⟨t, rows⟩ (first :: others) threshold = .error (.columnNotFound key.column) := by
  have indexed := (Table.indexed_ofSources ht).1
  constructor
  · intro hkeys
    have hnames : ∀ name ∈ (first :: others).map SortKey.column, name ∈ t.names := by
      intro name hname
      obtain ⟨key, hkey, rfl⟩ := List.mem_map.mp hname
      obtain ⟨s, hs, -⟩ := hkeys key hkey
      exact indexed.exists_column_eq_ok_iff.mp ⟨s, hs⟩
    obtain ⟨ss, hss⟩ := indexed.exists_columnsOf hnames
    have orders : ∀ s ∈ ss, s.OrdersRows := by
      intro s hs
      obtain ⟨name, hname, hcolumn⟩ := Table.exists_column_of_mem_columnsOf hss s hs
      obtain ⟨key, hkey, rfl⟩ := List.mem_map.mp hname
      obtain ⟨s', hs', horders⟩ := hkeys key hkey
      cases hs'.symm.trans hcolumn
      exact horders.ordersRows
    have keyed := List.cons_ne_nil first others
    have sorted (threshold : Nat) := sortedBy_viewBy ⟨t, rows⟩ keyed hss threshold
    have stable (threshold : Nat) := (sorted threshold).stablySorted orders
    have hsize : (viewBy ⟨t, rows⟩ (first :: others) ss 0).size = rows.size :=
      (sorted 0).complete.size_eq
    refine ⟨viewBy ⟨t, rows⟩ (first :: others) ss 0, fun threshold => ?_, rfl, fun slots => ?_,
      fun i hi => ?_, fun i j hij hj => ?_⟩
    · -- both orders of slots are stable, and there is only one
      have slots := Array.toList_inj.mp ((stable threshold).unique (stable 0))
      rw [sort_eq_viewBy ⟨t, rows⟩ keyed hss threshold, viewBy_eq_of_slots slots]
    · constructor
      · intro hslots
        exact hslots.unique (stable 0)
      · rintro rfl
        exact stable 0
    · exact (sorted 0).orderValueAt_eq_cell rfl (by rwa [hsize])
    · have value {q : Nat} (hq : q < rows.size) := (sorted 0).orderValueAt_eq_cell rfl (hsize ▸ hq)
      have behind := View.rel_slotAt (stable 0).sorted hij (hsize ▸ hj)
      -- a row that comes before another along the first key does not stand behind it
      have notBefore : t.keyOrder first _ _ ≠ .lt := fun hlt => behind (.here hlt)
      rw [value (Nat.lt_trans hij hj), value hj]
      exact Table.null_of_keyOrder_ne_lt notBefore
  · intro front key back threshold hsplit hfront hkey
    rw [sort, if_neg (by simp), hsplit, List.map_append, List.map_cons,
      indexed.columnsOf_eq_error (by simpa using hfront) hkey]
    rfl

/-- Prices of three articles, one of them missing, with their names. -/
private def articles : List Column :=
  [⟨"price", .int64 #[some 5, none, some 3]⟩, ⟨"name", .text #[some "b", some "a", some "c"]⟩]

private def articleTable : Table := ⟨articles.map .typed, [("name", 1), ("price", 0)]⟩

/-- A row may be listed twice or not be there at all. -/
theorem exists_sort_stable_articles :
    (∃ v, sort ⟨articleTable, #[1, 2, 0, 7, 0]⟩ [⟨"price", false⟩, ⟨"name", true⟩] 2 = .ok v ∧
      v.slots.toList = [2, 4, 1, 3, 0] ∧
      ∀ slots, StablySorted ⟨articleTable, #[1, 2, 0, 7, 0]⟩ [⟨"price", false⟩, ⟨"name", true⟩] slots ↔
        slots = [2, 4, 1, 3, 0]) ∧
    sort ⟨articleTable, #[1, 2, 0, 7, 0]⟩ [⟨"price", false⟩, ⟨"size", true⟩, ⟨"weight", true⟩] 2 =
      .error (.columnNotFound "size") := by
  have ht : Table.ofSources (articles.map .typed) = .ok articleTable := rfl
  have columns : ∀ key ∈ [SortKey.mk "price" false, ⟨"name", true⟩],
      ∃ s, articleTable.column key.column = .ok s ∧ s.OrdersCells := by
    refine List.forall_mem_cons.mpr ⟨⟨_, rfl, Source.ordersCells_typed _⟩, ?_⟩
    exact List.forall_mem_cons.mpr ⟨⟨_, rfl, Source.ordersCells_typed _⟩, by simp⟩
  constructor
  · obtain ⟨v, hsort, -, hslots, -⟩ :=
      (exists_sort_stable ht #[1, 2, 0, 7, 0] ⟨"price", false⟩ [⟨"name", true⟩]).1 columns
    have computed : (sort ⟨articleTable, #[1, 2, 0, 7, 0]⟩ [⟨"price", false⟩, ⟨"name", true⟩]
        2).map (fun v => v.slots.toList) = .ok [2, 4, 1, 3, 0] := by cbv
    rw [hsort] at computed
    have order : v.slots.toList = [2, 4, 1, 3, 0] := Except.ok.inj computed
    exact ⟨v, hsort 2, order, order ▸ hslots⟩
  · refine (exists_sort_stable ht #[1, 2, 0, 7, 0] ⟨"price", false⟩
      [⟨"size", true⟩, ⟨"weight", true⟩]).2 [⟨"price", false⟩] ⟨"size", true⟩ [⟨"weight", true⟩] 2 rfl
      ?_ ?_
    · simp [articleTable, articles, Table.names, Source.name]
    · simp [articleTable, articles, Table.names, Source.name]

end Partition

end WindowQuery
