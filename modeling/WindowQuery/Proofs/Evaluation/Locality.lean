import Mathlib
import WindowQuery.Proofs.Evaluation.Gather
import WindowQuery.Proofs.Function.Alike
import WindowQuery.Proofs.Partition.Groups

/-!
# Partitions are evaluated on their own

With partition columns, the value of an expression at a row is found by evaluating the expression
without them over the group of the row alone: over the table restricted to this group
(`Expression.evaluate_partitions`). Rows of other groups have no influence, neither on the value
nor on whether there is one.
-/

namespace WindowQuery.Expression

/-- The expression without its partition columns. -/
def unpartitioned (e : Expression) : Expression :=
  { e with window := { e.window with partitionBy := [] } }

/-- Without partition columns all rows form one partition. -/
theorem partitions_nil {t : Table} (h : t.rows ≠ 0) : t.partitions [] = .ok [Array.range t.rows] := by
  rw [Table.partitions, if_neg h]
  rfl

section

variable {e : Expression} {schedule : Schedule} {t : Table} {rows : List Nat}
  (hcolumns : t.columns ≠ []) (hrows : rows ≠ [])
include hcolumns hrows

/-- The restricted table has one partition, and it is alike with the rows themselves. -/
theorem overRows_restrict (e : Expression) (schedule : Schedule) :
    (t.restrict rows).partitions [] = .ok [Array.range rows.length] ∧
      e.unpartitioned.overRows schedule (t.restrict rows) (Array.range rows.length) =
        e.overRows schedule t rows.toArray := by
  have length : (t.restrict rows).rows = rows.length := Table.rows_restrict hcolumns rows
  have nonempty : rows.length ≠ 0 := fun h => hrows (List.length_eq_zero_iff.mp h)
  have alike := Partition.alike_restrict t rows.toArray
  refine ⟨?_, (overRows_eq alike e schedule).symm⟩
  rw [partitions_nil (by rwa [length]), length]

/-- Evaluating over the restricted table computes the rows as a partition of the whole table. -/
theorem evaluate_restrict :
    ((∃ sub, e.unpartitioned.evaluate schedule false (t.restrict rows) = .ok sub) ↔
      e.check = .ok () ∧ (∃ kind, e.outputKind t = .ok kind) ∧
        ∃ segment, e.overRows schedule t rows.toArray = .ok segment) ∧
    ∀ sub, e.unpartitioned.evaluate schedule false (t.restrict rows) = .ok sub →
      ∀ segment, e.overRows schedule t rows.toArray = .ok segment →
        ∀ k < rows.length, sub.cell k = segment.cell k := by
  obtain ⟨hpartitions, hover⟩ := overRows_restrict hcolumns hrows e schedule
  have hkind : e.unpartitioned.outputKind (t.restrict rows) = e.outputKind t := by
    rw [outputKind_eq, outputKind_eq]
    exact congrArg (Except.map _)
      ((Partition.alike_restrict t rows.toArray).inputKind_eq e.function).symm
  constructor
  · rw [exists_evaluate_iff hpartitions, hkind, List.forall_mem_singleton, hover]
    rfl
  · intro sub hsub segment hsegment k hk
    obtain ⟨-, written⟩ := cell_of_evaluate hsub hpartitions
    refine written _ (List.mem_singleton_self _) segment (hover.trans hsegment) k k ?_
    rw [Array.toList_range, List.getElem?_range hk]

end

/-- **Partitions are evaluated on their own.** Over typed columns an expression has a value exactly
when, without its partition columns, it has one over the table restricted to each group of rows
that agree in these columns; and the cell of the value at a row of a group is the one that the
group has for it. -/
theorem evaluate_partitions {columns : List Column} {t : Table}
    (ht : Table.ofSources (columns.map .typed) = .ok t) (hrows : 0 < t.rows) (e : Expression)
    (hcolumns : ∀ name ∈ e.window.partitionBy, name ∈ t.names) (schedule : Schedule) :
    ((∃ out, e.evaluate schedule false t = .ok out) ↔ ∀ r < t.rows, ∃ sub,
      e.unpartitioned.evaluate schedule false (t.restrict (t.group e.window.partitionBy r)) =
        .ok sub) ∧
    ∀ out, e.evaluate schedule false t = .ok out →
      out.size = t.rows ∧ ∀ r < t.rows, ∀ sub,
        e.unpartitioned.evaluate schedule false (t.restrict (t.group e.window.partitionBy r)) =
          .ok sub →
        ∀ k row, (t.group e.window.partitionBy r)[k]? = some row → out.cell row = sub.cell k := by
  -- a table with rows has columns
  have hne : t.columns ≠ [] := by
    intro h
    rw [Table.rows, h] at hrows
    exact Nat.lt_irrefl 0 hrows
  have occupied {r : Nat} (hr : r < t.rows) : t.group e.window.partitionBy r ≠ [] :=
    List.ne_nil_of_mem (Table.mem_group_self _ hr)
  obtain ⟨sources, hsources⟩ := (Table.indexed_ofSources ht).1.exists_columnsOf hcolumns
  have splits := (Table.typed_ofSources ht).splitsRows hsources
  -- each partition is a group, and each group is evaluated as a table of its own
  obtain ⟨partitions, hpartitions, members⟩ := Table.exists_partitions hsources splits
  constructor
  · rw [exists_evaluate_iff hpartitions]
    constructor
    · rintro ⟨hcheck, hkind, computed⟩ r hr
      refine (evaluate_restrict hne (occupied hr)).1.mpr ⟨hcheck, hkind, ?_⟩
      exact computed _ ((members _).mpr ⟨r, hr, rfl⟩)
    · intro h
      obtain ⟨hcheck, hkind, -⟩ := (evaluate_restrict hne (occupied hrows)).1.mp (h 0 hrows)
      refine ⟨hcheck, hkind, ?_⟩
      intro rows hmem
      obtain ⟨r, hr, rfl⟩ := (members rows).mp hmem
      exact ((evaluate_restrict hne (occupied hr)).1.mp (h r hr)).2.2
  · intro out hout
    obtain ⟨hsize, written⟩ := cell_of_evaluate hout hpartitions
    refine ⟨hsize, ?_⟩
    intro r hr sub hsub k row hk
    obtain ⟨-, -, segment, hsegment⟩ := (evaluate_restrict hne (occupied hr)).1.mp ⟨sub, hsub⟩
    have hlt : k < (t.group e.window.partitionBy r).length := (List.getElem?_eq_some_iff.mp hk).1
    rw [written _ ((members _).mpr ⟨r, hr, rfl⟩) segment hsegment k row hk,
      (evaluate_restrict hne (occupied hr)).2 sub hsub segment hsegment k hlt]

/-- Scores of two teams that take turns. -/
private def teams : Table :=
  ⟨[.typed ⟨"team", .text #[some "a", some "b", some "a"]⟩,
    .typed ⟨"score", .int64 #[some 1, some 2, some 3]⟩], [("score", 1), ("team", 0)]⟩

/-- The running total of each team from its best score on. -/
private def totals : Expression :=
  ⟨.aggregate .sum "score", { partitionBy := ["team"], orderBy := [⟨"score", false⟩] }, none⟩

/-- The first team has four points after its lower score, on its own as among the others. -/
theorem evaluate_partitions_teams :
    ∃ out sub, totals.evaluate .standard false teams = .ok out ∧
      totals.unpartitioned.evaluate .standard false (teams.restrict [0, 2]) = .ok sub ∧
      out.size = 3 ∧ out.cell 0 = sub.cell 0 ∧ out.cell 2 = sub.cell 1 ∧
      out.cell 0 = .int 4 ∧ out.cell 1 = .int 2 ∧ out.cell 2 = .int 3 ∧
      sub.cell 0 = .int 4 ∧ sub.cell 1 = .int 3 := by
  have ht : Table.ofSources ([⟨"team", .text #[some "a", some "b", some "a"]⟩,
      ⟨"score", .int64 #[some 1, some 2, some 3]⟩].map .typed) = .ok teams := rfl
  have hout : totals.evaluate .standard false teams =
      .ok ⟨"sum", .int64 #[some 4, some 2, some 3]⟩ := by
    cbv
  have hgroup : teams.group ["team"] 0 = [0, 2] := by cbv
  obtain ⟨succeeds, written⟩ := evaluate_partitions ht (by decide) totals (by decide) .standard
  obtain ⟨sub, hsub⟩ := succeeds.mp ⟨_, hout⟩ 0 (by decide)
  obtain ⟨hsize, cells⟩ := written _ hout
  have first := cells 0 (by decide) sub hsub 0 0 (congrArg (·[0]?) hgroup)
  have third := cells 0 (by decide) sub hsub 1 2 (congrArg (·[1]?) hgroup)
  refine ⟨_, sub, hout, ?_, hsize, first, third, by decide, by decide, by decide, ?_, ?_⟩
  · rw [← hgroup]
    exact hsub
  · rw [← first]
    decide
  · rw [← third]
    decide

end WindowQuery.Expression
