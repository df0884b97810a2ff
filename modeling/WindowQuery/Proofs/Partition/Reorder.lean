import WindowQuery.Proofs.Partition.Groups
import WindowQuery.Proofs.Table.Order

/-!
# Reordered tables

A table restricted to all of its rows in another order is the **reordered** table. Every row of it
comes from a row of the table, its origin, and carries the cells of its origin. So rows compare as
their origins do (`Table.rowOrder_restrict`), and the rows of a group come from the rows of a group
(`Table.map_origin_group`), in another order only.
-/

namespace WindowQuery.Table

/-- The row that a row of a restricted table **comes from**. -/
def origin (rows : List Nat) (k : Nat) : Nat := rows[k]?.getD 0

section

variable {rows : List Nat} {k k' : Nat} (hk : k < rows.length)
include hk

theorem getElem?_origin : rows[k]? = some (origin rows k) := by
  simp [origin, hk]

theorem cell_origin (t : Table) (name : String) :
    (t.restrict rows).cell name k = t.cell name (origin rows k) :=
  t.cell_restrict (getElem?_origin hk) name

/-- Rows compare as their origins do. -/
theorem rowOrder_restrict (t : Table) (hk' : k' < rows.length) (sortKeys : List SortKey) :
    (t.restrict rows).rowOrder sortKeys k k' =
      t.rowOrder sortKeys (origin rows k) (origin rows k') := by
  rw [rowOrder, rowOrder, t.tuple_restrict (getElem?_origin hk),
    t.tuple_restrict (getElem?_origin hk')]

end

theorem map_origin_range (rows : List Nat) : (List.range rows.length).map (origin rows) = rows := by
  refine List.ext_getElem (by simp) fun k hk hk' => ?_
  simp [origin, hk']

/-- Rows that are chosen by their origins. -/
theorem map_origin_filter (rows : List Nat) (test : Nat → Bool) :
    ((List.range rows.length).filter fun k => test (origin rows k)).map (origin rows) =
      rows.filter test :=
  calc ((List.range rows.length).filter fun k => test (origin rows k)).map (origin rows)
      = ((List.range rows.length).map (origin rows)).filter test := List.filter_map.symm
    _ = rows.filter test := by rw [map_origin_range]

theorem Typed.restrict {t : Table} (h : t.Typed) (rows : List Nat) : (t.restrict rows).Typed := by
  intro s' hs'
  obtain ⟨s, hs, rfl⟩ := List.mem_map.mp hs'
  obtain ⟨c, rfl⟩ := h s hs
  exact ⟨c.restrict rows, rfl⟩

section

variable {t : Table} {rows : List Nat} (hrows : rows.Perm (List.range t.rows))
include hrows

theorem rows_reorder : rows.length = t.rows ∧ (t.restrict rows).rows = t.rows := by
  have length : rows.length = t.rows := by simpa using hrows.length_eq
  refine ⟨length, ?_⟩
  by_cases hcolumns : t.columns = []
  · simp [restrict, Table.rows, hcolumns]
  · rw [rows_restrict hcolumns, length]

theorem origin_lt {k : Nat} (hk : k < t.rows) : origin rows k < t.rows := by
  rw [← (rows_reorder hrows).1] at hk
  exact List.mem_range.mp (hrows.mem_iff.mp (List.mem_of_getElem? (getElem?_origin hk)))

/-- **The rows of a group come from the rows of a group.** -/
theorem map_origin_group (names : List String) {k : Nat} (hk : k < t.rows) :
    (((t.restrict rows).group names k).map (origin rows)).Perm (t.group names (origin rows k)) := by
  obtain ⟨length, hrestrict⟩ := rows_reorder hrows
  have agree : ∀ k' ∈ List.range rows.length,
      Cell.sameTuples ((t.restrict rows).tuple names k) ((t.restrict rows).tuple names k') =
        Cell.sameTuples (t.tuple names (origin rows k)) (t.tuple names (origin rows k')) := by
    intro k' hk'
    rw [t.tuple_restrict (getElem?_origin (List.mem_range.mp hk')),
      t.tuple_restrict (getElem?_origin (by omega))]
  rw [group, hrestrict, ← length, List.filter_congr agree, group]
  have kept := map_origin_filter rows fun r =>
    Cell.sameTuples (t.tuple names (origin rows k)) (t.tuple names r)
  rw [kept]
  exact hrows.filter _

/-- The reordered table can be split where the table can. -/
theorem exists_partitions_reorder {names : List String} {partitions : List (Array Nat)}
    (h : t.partitions names = .ok partitions) :
    ∃ partitions', (t.restrict rows).partitions names = .ok partitions' := by
  by_cases hempty : t.rows = 0
  · exact ⟨[], by rw [Table.partitions, (rows_reorder hrows).2, if_pos hempty]⟩
  · obtain ⟨sources, hsources⟩ := exists_columnsOf_of_partitions h hempty
    exact exists_partitions_of_columnsOf (columnsOf_restrict hsources rows)

end

end WindowQuery.Table
