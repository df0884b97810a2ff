import Mathlib
import WindowQuery.Proofs.Partition.Groups

/-!
# Partitions as classes of rows

Rows **agree** by some columns when their cells are equal in each of them, where a missing value
equals a missing value. Over typed columns agreement is an equivalence, and the partitions of a
table are its classes. `Table.SplitBy` says what it is to split a table into these classes, and
there is only one way to do so (`Table.SplitBy.eq_classes`). It speaks of the set of columns alone,
so it makes no difference in which order they are named, or how often
(`Table.exists_partitions_splitBy`).
-/

namespace WindowQuery

namespace Table

/-- Two rows **agree** by the columns of several names. -/
def Agrees (t : Table) (names : List String) (r r' : Nat) : Prop :=
  ∀ name ∈ names, Cell.same (t.cell name r) (t.cell name r') = true

/-- Rows agree when their tuples are equal. -/
theorem sameTuples_tuple_iff {t : Table} {names : List String} {r r' : Nat} :
    Cell.sameTuples (t.tuple names r) (t.tuple names r') = true ↔ t.Agrees names r r' := by
  induction names with
  | nil => exact iff_of_true rfl (by simp [Agrees])
  | cons name names ih =>
    rw [tuple, tuple, List.map_cons, List.map_cons, Cell.sameTuples, Bool.and_eq_true, Agrees,
      List.forall_mem_cons]
    exact and_congr_right fun _ => ih

theorem mem_group_iff_agrees {t : Table} {names : List String} {r r' : Nat} :
    r' ∈ t.group names r ↔ r' < t.rows ∧ t.Agrees names r r' := by
  rw [mem_group, sameTuples_tuple_iff]

/-- The rows of a table are **split** by columns: into the classes of rows that agree, with their
rows in table order, and the classes in the order of their first rows. -/
structure SplitBy (t : Table) (names : List String) (partitions : List (Array Nat)) : Prop where
  /-- Every row is in one partition, and there once. -/
  once : (partitions.flatMap Array.toList).Perm (List.range t.rows)
  together : ∀ r < t.rows, ∀ r' < t.rows,
    (∃ rows ∈ partitions, r ∈ rows ∧ r' ∈ rows) ↔ t.Agrees names r r'
  occupied : ∀ rows ∈ partitions, rows ≠ #[]
  ascending : ∀ rows ∈ partitions, rows.toList.Pairwise (· < ·)
  inOrder : partitions.Pairwise fun rows rows' => ∀ r ∈ rows[0]?, ∀ r' ∈ rows'[0]?, r < r'

/-! ### There is one way to split a table -/

namespace SplitBy

variable {t : Table} {names : List String} {partitions : List (Array Nat)}
  (h : t.SplitBy names partitions) {rows : Array Nat} (hrows : rows ∈ partitions)
include h

theorem exists_mem {r : Nat} (hr : r < t.rows) : ∃ rows ∈ partitions, r ∈ rows := by
  obtain ⟨rows, hrows, hmem, -⟩ := (h.together r hr r hr).mpr fun _ _ => Cell.same_self _
  exact ⟨rows, hrows, hmem⟩

/-- Different partitions have no row in common. -/
theorem eq_of_mem {rows' : Array Nat} {r : Nat} (hrows : rows ∈ partitions)
    (hrows' : rows' ∈ partitions) (hr : r ∈ rows) (hr' : r ∈ rows') : rows = rows' := by
  have apart := (List.nodup_flatMap.mp (h.once.nodup_iff.mpr List.nodup_range)).2
  have : Std.Symm (Function.onFun List.Disjoint (Array.toList (α := Nat))) :=
    ⟨fun _ _ hdisjoint => hdisjoint.symm⟩
  by_contra hne
  exact apart.forall hrows hrows' hne (Array.mem_toList_iff.mpr hr) (Array.mem_toList_iff.mpr hr')

include hrows

theorem lt_rows {r : Nat} (hr : r ∈ rows) : r < t.rows :=
  List.mem_range.mp (h.once.mem_iff.mp
    (List.mem_flatMap.mpr ⟨rows, hrows, Array.mem_toList_iff.mpr hr⟩))

/-- A partition is the group of any of its rows. -/
theorem eq_group {r : Nat} (hr : r ∈ rows) : rows = (t.group names r).toArray := by
  refine Array.toArray_toList.symm.trans (congrArg List.toArray ?_)
  refine (h.ascending rows hrows).eq_of_mem_iff (t.pairwise_group names r) fun r' => ?_
  rw [Array.mem_toList_iff, mem_group_iff_agrees]
  constructor
  · intro hr'
    have lt := h.lt_rows hrows hr'
    exact ⟨lt, (h.together r (h.lt_rows hrows hr) r' lt).mp ⟨rows, hrows, hr, hr'⟩⟩
  · rintro ⟨lt, hagrees⟩
    obtain ⟨rows', hrows', hmem, hmem'⟩ := (h.together r (h.lt_rows hrows hr) r' lt).mpr hagrees
    rwa [h.eq_of_mem hrows hrows' hr hmem]

/-- A partition starts with the first row of its key. -/
theorem exists_first :
    ∃ f ∈ KeyGroup.firsts (t.tuple names) t.rows, rows[0]? = some f ∧ f ∈ rows := by
  have occupied : rows.toList ≠ [] := by simpa using h.occupied rows hrows
  obtain ⟨f, rest, hcons⟩ := List.exists_cons_of_ne_nil occupied
  have first : rows[0]? = some f := by rw [← Array.getElem?_toList, hcons, List.getElem?_cons_zero]
  have member : f ∈ rows := Array.mem_of_getElem? first
  refine ⟨f, KeyGroup.mem_firsts.mpr ⟨h.lt_rows hrows member, fun r hr => ?_⟩, first, member⟩
  -- an earlier row of the same key would stand in front of it
  refine Bool.eq_false_iff.mpr fun hsame => ?_
  have earlier : r ∈ rows.toList := by
    rw [h.eq_group hrows member, mem_group, Cell.sameTuples_comm]
    exact ⟨Nat.lt_trans hr (h.lt_rows hrows member), hsame⟩
  have ascending := h.ascending rows hrows
  rw [hcons] at earlier ascending
  rcases List.mem_cons.mp earlier with rfl | hrest
  · exact Nat.lt_irrefl r hr
  · exact Nat.lt_asymm hr ((List.pairwise_cons.mp ascending).1 r hrest)

omit hrows

/-- **There is one way to split a table by columns.** -/
theorem eq_classes : partitions = t.classes names := by
  have heads : partitions.filterMap (fun rows => rows[0]?) =
      KeyGroup.firsts (t.tuple names) t.rows := by
    refine List.Pairwise.eq_of_mem_iff (List.pairwise_filterMap.mpr h.inOrder)
      (List.Pairwise.filter _ List.pairwise_lt_range) fun f => ?_
    rw [List.mem_filterMap]
    constructor
    · rintro ⟨rows, hrows, hf⟩
      obtain ⟨f', hf', hfirst, -⟩ := h.exists_first hrows
      rwa [Option.some.inj (hf.symm.trans hfirst)]
    · intro hf
      -- the partition of a first row starts with it, since a key has no other first row
      obtain ⟨rows, hrows, hmem⟩ := h.exists_mem (KeyGroup.mem_firsts.mp hf).1
      obtain ⟨f', hf', hfirst, hmem'⟩ := h.exists_first hrows
      have hsame : f' ∈ t.group names f := by
        rw [← List.mem_toArray, ← h.eq_group hrows hmem]
        exact hmem'
      obtain rfl := KeyGroup.eq_of_mem_firsts hf hf' (mem_group.mp hsame).2
      exact ⟨rows, hrows, hfirst⟩
  have groups : ∀ rows ∈ partitions,
      (rows[0]?.map fun r => (t.group names r).toArray) = some rows := by
    intro rows hrows
    obtain ⟨f, -, hfirst, hmem⟩ := h.exists_first hrows
    rw [hfirst, Option.map_some, ← h.eq_group hrows hmem]
  rw [classes, ← heads, List.map_filterMap, List.filterMap_congr groups, List.filterMap_some]

end SplitBy

/-- The group of a first row starts with it. -/
theorem getElem?_group_zero {t : Table} {names : List String} {f : Nat}
    (hf : f ∈ KeyGroup.firsts (t.tuple names) t.rows) : (t.group names f)[0]? = some f := by
  obtain ⟨hlt, earliest⟩ := KeyGroup.mem_firsts.mp hf
  have member := mem_group_self names hlt
  have ascending := t.pairwise_group names f
  cases hgroup : t.group names f with
  | nil => simp [hgroup] at member
  | cons r rest =>
    have hr : r ∈ t.group names f := hgroup ▸ List.mem_cons_self
    rw [hgroup] at member ascending
    rcases List.mem_cons.mp member with rfl | hrest
    · rfl
    · -- the row in front would be an earlier one of the same key
      have before := (List.pairwise_cons.mp ascending).1 f hrest
      have hsame := (mem_group.mp hr).2
      rw [Cell.sameTuples_comm] at hsame
      exact absurd hsame (Bool.eq_false_iff.mp (earliest r before))

/-- **The groups of a table split it**, when equality of cells is an equivalence in the columns. -/
theorem splitBy_classes {t : Table} {names : List String} {sources : List Source}
    (hsources : t.columnsOf names = .ok sources) (splits : ∀ s ∈ sources, s.SplitsRows) :
    t.SplitBy names (t.classes names) where
  once := flatMap_partitions (partitions_eq_classes hsources splits)
  together r hr r' hr' := by
    constructor
    · rintro ⟨rows, hrows, hmem, hmem'⟩
      obtain ⟨f, -, rfl⟩ := (mem_classes_iff hsources splits rows).mp hrows
      rw [List.mem_toArray] at hmem hmem'
      rw [← group_eq hsources splits hmem] at hmem'
      exact (mem_group_iff_agrees.mp hmem').2
    · intro hagrees
      refine ⟨_, (mem_classes_iff hsources splits _).mpr ⟨r, hr, rfl⟩, ?_, ?_⟩
      · exact List.mem_toArray.mpr (mem_group_self names hr)
      · exact List.mem_toArray.mpr (mem_group_iff_agrees.mpr ⟨hr', hagrees⟩)
  occupied rows hrows := by
    obtain ⟨f, hf, rfl⟩ := (mem_classes_iff hsources splits rows).mp hrows
    simpa using List.ne_nil_of_mem (mem_group_self names hf)
  ascending rows hrows := by
    obtain ⟨f, -, rfl⟩ := (mem_classes_iff hsources splits rows).mp hrows
    exact t.pairwise_group names f
  inOrder := by
    -- groups are listed by their first rows, and the first rows in table order
    have ascending : (KeyGroup.firsts (t.tuple names) t.rows).Pairwise (· < ·) :=
      List.Pairwise.filter _ List.pairwise_lt_range
    refine List.pairwise_map.mpr (ascending.imp_of_mem fun {f f'} hf hf' hlt r hr r' hr' => ?_)
    rw [List.getElem?_toArray, getElem?_group_zero hf] at hr
    rw [List.getElem?_toArray, getElem?_group_zero hf'] at hr'
    rwa [← Option.some.inj hr, ← Option.some.inj hr']

/-! ### Partitions -/

/-- Which columns are named decides how a table is split. -/
theorem SplitBy.congr {t : Table} {names names' : List String} {partitions : List (Array Nat)}
    (h : t.SplitBy names partitions) (hnames : ∀ name, name ∈ names' ↔ name ∈ names) :
    t.SplitBy names' partitions where
  once := h.once
  together r hr r' hr' := by
    rw [h.together r hr r' hr', Agrees, Agrees]
    simp only [hnames]
  occupied := h.occupied
  ascending := h.ascending
  inOrder := h.inOrder

/-- **The partitions of a table split it** into the classes of rows that agree by the partition
columns, missing values being equal, and nothing else does. They are the same for every list of
these columns. Without partition columns all rows form one partition. -/
theorem exists_partitions_splitBy {columns : List Column} {t : Table}
    (ht : ofSources (columns.map .typed) = .ok t) {names : List String}
    (hnames : ∀ name ∈ names, name ∈ t.names) :
    ∃ partitions, (∀ others, t.SplitBy names others ↔ others = partitions) ∧
      (∀ names' : List String, (∀ name, name ∈ names' ↔ name ∈ names) →
        t.partitions names' = .ok partitions) ∧
      (names = [] → 0 < t.rows → partitions = [Array.range t.rows]) := by
  have split (names' : List String) (hsame : ∀ name, name ∈ names' ↔ name ∈ names) :
      t.partitions names' = .ok (t.classes names') ∧ t.SplitBy names' (t.classes names') := by
    obtain ⟨sources, hsources⟩ := (indexed_ofSources ht).1.exists_columnsOf
      fun name hname => hnames name ((hsame name).mp hname)
    have splits := (typed_ofSources ht).splitsRows hsources
    exact ⟨partitions_eq_classes hsources splits, splitBy_classes hsources splits⟩
  refine ⟨t.classes names, fun others => ?_, fun names' hsame => ?_, ?_⟩
  · constructor
    · exact fun hothers => hothers.eq_classes
    · rintro rfl
      exact (split names fun _ => Iff.rfl).2
  · obtain ⟨hpartitions, hsplit⟩ := split names' hsame
    rw [hpartitions, (hsplit.congr fun name => (hsame name).symm).eq_classes]
  · rintro rfl hrows
    exact classes_nil (Nat.ne_of_gt hrows)

/-- Rooms by floor, two of them on no floor. -/
private def rooms : List Column :=
  [⟨"floor", .text #[some "2", none, some "1", some "2", none]⟩,
    ⟨"heated", .boolean #[some true, some false, some true, some true, some false]⟩]

private def roomTable : Table := ⟨rooms.map .typed, [("heated", 1), ("floor", 0)]⟩

/-- Naming a column twice, or the columns in another order, splits the rooms in the same way. -/
theorem exists_partitions_splitBy_rooms :
    roomTable.partitions ["floor", "heated"] = .ok [#[0, 3], #[1, 4], #[2]] ∧
      roomTable.partitions ["heated", "floor", "heated"] = .ok [#[0, 3], #[1, 4], #[2]] ∧
      roomTable.SplitBy ["floor", "heated"] [#[0, 3], #[1, 4], #[2]] := by
  have ht : ofSources (rooms.map .typed) = .ok roomTable := rfl
  have existing : ∀ name ∈ ["floor", "heated"], name ∈ roomTable.names := by decide
  obtain ⟨partitions, unique, same, -⟩ := exists_partitions_splitBy ht existing
  have computed : roomTable.partitions ["floor", "heated"] = .ok [#[0, 3], #[1, 4], #[2]] := by cbv
  obtain rfl := Except.ok.inj (computed.symm.trans (same _ fun _ => Iff.rfl))
  refine ⟨computed, same _ fun name => ?_, (unique _).mpr rfl⟩
  simp only [List.mem_cons, List.not_mem_nil, or_false]
  tauto

end Table

end WindowQuery
