import Mathlib
import WindowQuery.Proofs.Evaluation.Gather
import WindowQuery.Proofs.Partition.Groups

/-!
# What an evaluation comes to

A function computes a column of the kind that it declares for its input, over any view and any
frame. A result column made for the declared kind therefore takes whatever is computed, and an
evaluation fails for two reasons only once its checks have passed and its columns are found: the
rows of some partition cannot be put in order, or the function cannot be computed over them
(`Expression.FailsOver`). Otherwise it gives a column of the declared kind with a cell for every
row (`Expression.evaluate_outcome`).
-/

namespace WindowQuery

/-- A function whose input column exists finds its input. -/
theorem Function.exists_inputKind {t : Table} (ht : t.Indexed) {fn : Function}
    (hinput : ∀ name ∈ fn.inputColumn?, name ∈ t.names) : ∃ input, fn.inputKind t = .ok input := by
  unfold inputKind
  cases hname : fn.inputColumn? with
  | none => exact ⟨.null, rfl⟩
  | some name =>
    obtain ⟨s, hs⟩ := ht.exists_column_eq_ok_iff.mpr (hinput name hname)
    exact ⟨s.kind, map_eq_ok.mpr ⟨s, hs, rfl⟩⟩

namespace Expression

/-- The expression **fails over** some rows: they cannot be ordered, or the function cannot be
computed over them in that order. -/
def FailsOver (e : Expression) (schedule : Schedule) (t : Table) (rows : Array Nat) : Prop :=
  (∃ err, Partition.sort ⟨t, rows⟩ e.window.orderBy schedule.sortThreshold = .error err) ∨
    ∃ v, Partition.sort ⟨t, rows⟩ e.window.orderBy schedule.sortThreshold = .ok v ∧
      ∃ err, e.function.compute v e.window.frame = .error err

variable {e : Expression} {schedule : Schedule} {t : Table} {rows : Array Nat}

/-- An expression fails over rows when it computes no segment over them. -/
theorem failsOver_iff :
    e.FailsOver schedule t rows ↔ ¬ ∃ segment, e.overRows schedule t rows = .ok segment := by
  rw [← exists_error_iff]
  unfold overRows FailsOver
  simp only [bind_eq_error]
  constructor
  · rintro (⟨err, h⟩ | ⟨v, hv, err, h⟩)
    · exact ⟨err, .inl h⟩
    · exact ⟨err, .inr ⟨v, hv, h⟩⟩
  · rintro ⟨err, h | ⟨v, hv, h⟩⟩
    · exact .inl ⟨err, h⟩
    · exact .inr ⟨v, hv, err, h⟩

/-- **Declared and computed kinds agree.** Every segment has one cell for every slot and is stored
as the kind declared for its input. An evaluation whose checks pass and whose columns exist
therefore fails exactly when it fails over some partition, and else it gives a column of the
declared kind with one cell for every row. A kind without storage of its own is kept as 64-bit
integers. -/
theorem evaluate_outcome {sources : List Source} (ht : Table.ofSources sources = .ok t)
    (e : Expression) (schedule : Schedule) :
    (∀ (p : Partition) (fn : Function) sortKeys threshold v f segment,
      p.sort sortKeys threshold = .ok v → fn.compute v f = .ok segment →
        segment.size = p.size ∧ ∃ input, fn.inputKind p.table = .ok input ∧
          (∀ name n, segment.kind = (Column.nulls name (fn.resultKind input) n).kind) ∧
          (fn.resultKind input = .null → segment.kind = .int64)) ∧
    (e.check = .ok () → (∀ name ∈ e.function.inputColumn?, name ∈ t.names) →
      (∀ name ∈ e.window.partitionBy, name ∈ t.names) →
        ∃ partitions input, t.partitions e.window.partitionBy = .ok partitions ∧
          e.function.inputKind t = .ok input ∧
          ((∃ err, e.evaluate schedule false t = .error err) ↔
            ∃ rows ∈ partitions, e.FailsOver schedule t rows) ∧
          ((∀ rows ∈ partitions, ¬ e.FailsOver schedule t rows) →
            ∃ out, e.evaluate schedule false t = .ok out ∧ out.name = e.displayName ∧
              (∀ name n, out.kind = (Column.nulls name (e.function.resultKind input) n).kind) ∧
              out.size = t.rows)) := by
  constructor
  · intro p fn sortKeys threshold v f segment hsort hcompute
    have hpartition : v.partition = p := (Partition.sort_eq_ok hsort).1
    obtain ⟨input, hinput, hsegment⟩ := Function.isSegment_compute hcompute
    refine ⟨?_, input, hpartition ▸ hinput, fun name n => ?_, fun hnull => ?_⟩
    · rw [hsegment.size_eq, (Partition.complete_of_sort hsort).size_eq, hpartition]
    · exact hsegment.kind_eq.trans (Storage.kind_nulls _ n).symm
    · rw [hsegment.kind_eq, hnull]
      rfl
  · intro hcheck hinput hpartitionBy
    have indexed := (Table.indexed_ofSources ht).1
    obtain ⟨input, hinput⟩ := Function.exists_inputKind indexed hinput
    obtain ⟨splitters, hsplitters⟩ := indexed.exists_columnsOf hpartitionBy
    obtain ⟨partitions, hpartitions⟩ := Table.exists_partitions_of_columnsOf hsplitters
    have houtput : e.outputKind t = .ok (e.function.resultKind input) := by
      rw [outputKind_eq, hinput]
      rfl
    refine ⟨partitions, input, hpartitions, hinput, ?_, fun hrows => ?_⟩
    · -- of the conditions for success only the one on partitions is open
      rw [exists_error_iff, exists_evaluate_iff hpartitions]
      simp [hcheck, houtput, failsOver_iff]
    · have computed : ∀ rows ∈ partitions, ∃ segment, e.overRows schedule t rows = .ok segment :=
        fun rows hmem => not_not.mp (failsOver_iff.not.mp (hrows rows hmem))
      obtain ⟨out, hout, hname, hkind, hsize, -⟩ :=
        exists_evaluate schedule hcheck houtput hpartitions computed
      exact ⟨out, hout, hname, fun name n => hkind.trans (Storage.kind_nulls _ n).symm, hsize⟩

/-- Entries of two teams, one of them beyond the kind that the column declares. -/
private def entries : List Source :=
  [.typed ⟨"team", .text #[some "a", some "b"]⟩, .loose "n" .int32 #[.int 5, .int 1099511627776]]

private def entryTable : Table := ⟨entries, [("n", 1), ("team", 0)]⟩

/-- An entry that is too great for its column makes the evaluation over its team fail, but it
is counted. -/
theorem evaluate_outcome_entries :
    (∃ err, Expression.evaluate ⟨.firstValue "n", { partitionBy := ["team"] }, none⟩ .standard false
      entryTable = .error err) ∧
    ∃ out, Expression.evaluate ⟨.count "n", { partitionBy := ["team"] }, some "present"⟩ .standard
      false entryTable = .ok out ∧ out.name = "present" ∧ out.kind = .int64 ∧ out.size = 2 := by
  have ht : Table.ofSources entries = .ok entryTable := rfl
  have names : entryTable.names = ["team", "n"] := rfl
  have split : entryTable.partitions ["team"] = .ok [#[0], #[1]] := by cbv
  constructor
  · obtain ⟨partitions, -, hpartitions, -, fails, -⟩ := (evaluate_outcome ht
      ⟨.firstValue "n", { partitionBy := ["team"] }, none⟩ .standard).2 rfl
      (by simp [Function.inputColumn?, names]) (by simp [names])
    cases split.symm.trans hpartitions
    exact fails.mpr ⟨#[1], by simp, .inr ⟨_, rfl, _, rfl⟩⟩
  · obtain ⟨partitions, input, hpartitions, hinput, -, succeeds⟩ := (evaluate_outcome ht
      ⟨.count "n", { partitionBy := ["team"] }, some "present"⟩ .standard).2 rfl
      (by simp [Function.inputColumn?, names]) (by simp [names])
    cases split.symm.trans hpartitions
    obtain ⟨out, hout, hname, hkind, hsize⟩ := succeeds fun rows hrows => by
      rw [failsOver_iff, not_not]
      rcases List.mem_pair.mp hrows with rfl | rfl
      · exact ⟨_, rfl⟩
      · exact ⟨_, rfl⟩
    exact ⟨out, hout, hname, hkind "" 0, hsize⟩

end Expression

end WindowQuery
