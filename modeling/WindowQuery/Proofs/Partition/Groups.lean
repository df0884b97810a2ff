import WindowQuery.Proofs.Partition.Quotient
import WindowQuery.Proofs.Table.Restrict

/-!
# Partitions as groups of rows

The **group** of a row are the rows that agree with it in every partition column, in table order
(`Table.group`). When equality of cells is an equivalence in these columns, as it is in typed ones,
the partitions of a table are the groups of its rows (`Table.exists_partitions`).
-/

namespace WindowQuery.Table

/-- The rows that agree with a row in the columns of several names. -/
def group (t : Table) (names : List String) (r : Nat) : List Nat :=
  (List.range t.rows).filter fun r' => Cell.sameTuples (t.tuple names r) (t.tuple names r')

theorem mem_group {t : Table} {names : List String} {r r' : Nat} :
    r' ∈ t.group names r ↔
      r' < t.rows ∧ Cell.sameTuples (t.tuple names r) (t.tuple names r') = true := by
  rw [group, List.mem_filter, List.mem_range]

/-- A row belongs to its own group. -/
theorem mem_group_self {t : Table} (names : List String) {r : Nat} (hr : r < t.rows) :
    r ∈ t.group names r := mem_group.mpr ⟨hr, Cell.sameTuples_self _⟩

/-- Groups list their rows in table order. -/
theorem pairwise_group (t : Table) (names : List String) (r : Nat) :
    (t.group names r).Pairwise (· < ·) := List.Pairwise.filter _ List.pairwise_lt_range

/-- The groups of all rows, each listed once, under the first row in it. -/
def classes (t : Table) (names : List String) : List (Array Nat) :=
  (KeyGroup.firsts (t.tuple names) t.rows).map fun r => (t.group names r).toArray

/-- Without names all rows agree, and the first row is the only one that starts a group. -/
theorem classes_nil {t : Table} (hrows : t.rows ≠ 0) : t.classes [] = [Array.range t.rows] := by
  have first : KeyGroup.firsts (t.tuple []) t.rows = [0] := by
    obtain ⟨n, hn⟩ := Nat.exists_eq_succ_of_ne_zero hrows
    have later : ∀ r ∈ (List.range n).map Nat.succ, ¬ KeyGroup.isFirst (t.tuple []) r = true := by
      intro r hr hfirst
      obtain ⟨r, -, rfl⟩ := List.mem_map.mp hr
      exact Bool.noConfusion (KeyGroup.isFirst_iff.mp hfirst 0 (Nat.succ_pos r))
    rw [hn, KeyGroup.firsts, List.range_succ_eq_map, List.filter_cons_of_pos rfl,
      List.filter_eq_nil_iff.mpr later]
  have whole : t.group [] 0 = List.range t.rows := List.filter_eq_self.mpr fun _ _ => rfl
  rw [classes, first, List.map_singleton, whole, List.toArray_range]

/-- Every column of the table is typed. -/
def Typed (t : Table) : Prop := ∀ s ∈ t.columns, ∃ c, s = .typed c

theorem typed_ofSources {columns : List Column} {t : Table}
    (h : ofSources (columns.map .typed) = .ok t) : t.Typed := by
  intro s hs
  rw [(indexed_ofSources h).2] at hs
  obtain ⟨c, -, rfl⟩ := List.mem_map.mp hs
  exact ⟨c, rfl⟩

section

variable {t : Table} {names : List String} {sources : List Source}
  (hsources : t.columnsOf names = .ok sources)
include hsources

theorem Typed.ordersRows (h : t.Typed) : ∀ s ∈ sources, s.OrdersRows := by
  intro s hs
  obtain ⟨c, rfl⟩ := h s (mem_columns_of_columnsOf hsources s hs)
  exact Source.ordersRows_typed c

theorem Typed.splitsRows (h : t.Typed) : ∀ s ∈ sources, s.SplitsRows := by
  intro s hs
  obtain ⟨c, rfl⟩ := h s (mem_columns_of_columnsOf hsources s hs)
  exact Source.splitsRows_typed c

/-- Agreement in several columns is an equivalence when it is in each of them. -/
theorem sameTuples_trans (h : ∀ s ∈ sources, s.SplitsRows) (i j k : Nat)
    (hij : Cell.sameTuples (t.tuple names i) (t.tuple names j) = true)
    (hjk : Cell.sameTuples (t.tuple names j) (t.tuple names k) = true) :
    Cell.sameTuples (t.tuple names i) (t.tuple names k) = true := by
  rw [tuple_eq hsources] at hij hjk ⊢
  rw [tuple_eq hsources] at hij hjk ⊢
  exact Source.sameTuples_trans h hij hjk

/-- Rows that agree have the same group. -/
theorem group_eq (h : ∀ s ∈ sources, s.SplitsRows) {r r' : Nat} (hr : r' ∈ t.group names r) :
    t.group names r' = t.group names r := by
  have hsame := (mem_group.mp hr).2
  refine List.filter_congr ?_
  intro k _
  rw [Bool.eq_iff_iff]
  constructor
  · exact sameTuples_trans hsources h r r' k hsame
  · rw [Cell.sameTuples_comm] at hsame
    exact sameTuples_trans hsources h r' r k hsame

/-- The first rows of the keys list every group. -/
theorem mem_classes_iff (h : ∀ s ∈ sources, s.SplitsRows) (rows : Array Nat) :
    rows ∈ t.classes names ↔ ∃ r < t.rows, rows = (t.group names r).toArray := by
  rw [classes, List.mem_map]
  constructor
  · rintro ⟨r, hr, rfl⟩
    exact ⟨r, (KeyGroup.mem_firsts.mp hr).1, rfl⟩
  · rintro ⟨r, hr, rfl⟩
    -- the class of a row is listed under the first row of its key
    obtain ⟨f, hf, hsame⟩ := KeyGroup.exists_mem_firsts (sameTuples_trans hsources h) hr
    refine ⟨f, hf, congrArg List.toArray ?_⟩
    exact (group_eq hsources h (mem_group.mpr ⟨hr, hsame⟩)).symm

/-- **The partitions of a table are the groups of its rows**, in the order of their first rows. -/
theorem partitions_eq_classes (h : ∀ s ∈ sources, s.SplitsRows) :
    t.partitions names = .ok (t.classes names) := by
  rw [partitions_eq]
  by_cases hrows : t.rows = 0
  · rw [if_pos hrows, classes, hrows]
    rfl
  rw [if_neg hrows]
  by_cases hnames : names = []
  · subst hnames
    rw [classes_nil hrows]
    rfl
  · have tuples : Source.tuple sources = t.tuple names :=
      funext fun row => (tuple_eq hsources row).symm
    rw [if_neg (by simpa using hnames), hsources]
    refine congrArg Except.ok ?_
    dsimp only
    rw [tuples, KeyGroup.ofRows_eq (sameTuples_trans hsources h), List.map_map]
    rfl

theorem exists_partitions (h : ∀ s ∈ sources, s.SplitsRows) :
    ∃ partitions, t.partitions names = .ok partitions ∧
      ∀ rows, rows ∈ partitions ↔ ∃ r < t.rows, rows = (t.group names r).toArray :=
  ⟨_, partitions_eq_classes hsources h, mem_classes_iff hsources h⟩

end

/-- **Every row is in one partition**, and there once. -/
theorem flatMap_partitions {t : Table} {columns : List String}
    {partitions : List (Array Nat)} (h : t.partitions columns = .ok partitions) :
    (partitions.flatMap Array.toList).Perm (List.range t.rows) := by
  rw [partitions_eq] at h
  split at h
  case isTrue hrows =>
    cases h
    rw [hrows]
    exact List.Perm.refl _
  case isFalse =>
    split at h
    case isTrue =>
      cases h
      simp
    case isFalse =>
      obtain ⟨sources, -, rfl⟩ := map_eq_ok.mp h
      rw [List.flatMap_map]
      exact KeyGroup.flatMap_rows_ofRows _ _

/-- A table can be split by columns that exist, whatever cells they hold. -/
theorem exists_partitions_of_columnsOf {t : Table} {columns : List String}
    {sources : List Source} (h : t.columnsOf columns = .ok sources) :
    ∃ partitions, t.partitions columns = .ok partitions := by
  rw [partitions_eq, h]
  split
  · exact ⟨_, rfl⟩
  · split
    · exact ⟨_, rfl⟩
    · exact ⟨_, rfl⟩

/-- Where there are rows to split, the columns to split them by exist. -/
theorem exists_columnsOf_of_partitions {t : Table} {columns : List String}
    {partitions : List (Array Nat)} (h : t.partitions columns = .ok partitions) (hrows : t.rows ≠ 0) :
    ∃ sources, t.columnsOf columns = .ok sources := by
  rw [partitions_eq, if_neg hrows] at h
  split at h
  case isTrue hempty =>
    rw [List.isEmpty_iff.mp hempty]
    exact ⟨[], rfl⟩
  case isFalse =>
    obtain ⟨sources, hsources, -⟩ := map_eq_ok.mp h
    exact ⟨sources, hsources⟩

/-- The partitions of a typed table are the groups of its rows. -/
theorem Typed.mem_partitions_iff {t : Table} (h : t.Typed) {names : List String}
    {partitions : List (Array Nat)} (hpartitions : t.partitions names = .ok partitions)
    (rows : Array Nat) :
    rows ∈ partitions ↔ ∃ r < t.rows, rows = (t.group names r).toArray := by
  by_cases hempty : t.rows = 0
  · rw [partitions_eq, if_pos hempty] at hpartitions
    cases hpartitions
    simp [hempty]
  · obtain ⟨sources, hsources⟩ := exists_columnsOf_of_partitions hpartitions hempty
    obtain ⟨partitions', hpartitions', members⟩ :=
      Table.exists_partitions hsources (h.splitsRows hsources)
    obtain rfl := Except.ok.inj (hpartitions.symm.trans hpartitions')
    exact members rows

end WindowQuery.Table
