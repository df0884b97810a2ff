import WindowQuery.Proofs.Evaluation.Outcome

/-!
# Errors of the schema

An expression may refer to a column that a table does not have, or aggregate one that does not hold
numbers. `Expression.SchemaError` lists these errors. In a table with rows they surface: whenever
there is one, evaluation fails with one (`Expression.evaluate_schemaError`). A table without rows
has no partitions to split or to order, and nothing is computed over them. There only the input
column is looked up, and any other error of the schema goes unnoticed
(`Expression.evaluate_schemaError_needs_rows`).
-/

namespace WindowQuery

/-! ### Columns that are missing -/

/-- When a name is missing, one that is missing is reported. -/
theorem Table.Indexed.exists_columnsOf_eq_error {t : Table} (h : t.Indexed) {names : List String}
    (hnames : ¬ ∀ name ∈ names, name ∈ t.names) :
    ∃ name ∈ names, name ∉ t.names ∧ t.columnsOf names = .error (.columnNotFound name) := by
  induction names with
  | nil => exact absurd (fun _ hname => absurd hname List.not_mem_nil) hnames
  | cons n names ih =>
    by_cases hn : n ∈ t.names
    · rw [List.forall_mem_cons, not_and] at hnames
      obtain ⟨name, hname, hmissing, herror⟩ := ih (hnames hn)
      obtain ⟨s, hs⟩ := h.exists_column_eq_ok_iff.mpr hn
      refine ⟨name, List.mem_cons_of_mem n hname, hmissing, ?_⟩
      rw [columnsOf, List.mapM_cons]
      exact bind_eq_error.mpr (.inr ⟨s, hs, bind_eq_error.mpr (.inl herror)⟩)
    · have first : t.columnsOf ([] ++ n :: names) = .error (.columnNotFound n) :=
        h.columnsOf_eq_error (by simp) hn
      exact ⟨n, List.mem_cons_self, hn, first⟩

/-- Where there are rows there is a first partition. -/
theorem Table.exists_first_partition {t : Table} (hrows : 0 < t.rows) {names : List String}
    {sources : List Source} (hsources : t.columnsOf names = .ok sources) :
    ∃ rows rest, t.partitions names = .ok (rows :: rest) := by
  obtain ⟨partitions, hpartitions⟩ := exists_partitions_of_columnsOf hsources
  cases partitions with
  | nil =>
    have none := (flatMap_partitions hpartitions).length_eq
    rw [List.length_range] at none
    exact absurd none.symm (Nat.ne_of_gt hrows)
  | cons rows rest => exact ⟨rows, rest, hpartitions⟩

/-- Partitions can be ordered by columns that exist. -/
theorem Partition.exists_sort_of_columnsOf {p : Partition} {sortKeys : List SortKey}
    {sources : List Source}
    (hsources : p.table.columnsOf (sortKeys.map SortKey.column) = .ok sources) (threshold : Nat) :
    ∃ v, p.sort sortKeys threshold = .ok v := by
  unfold sort
  split
  · exact ⟨_, rfl⟩
  · exact ⟨_, bind_eq_ok.mpr ⟨sources, hsources, rfl⟩⟩

/-- Numbers are what aggregates can be computed of. -/
theorem Aggregate.compute_eq_error {a : Aggregate} {column : String} {v : View} {f : Frame}
    {s : Source} (hs : v.partition.table.column column = .ok s)
    (hkind : s.kind ∉ [Kind.int32, .int64, .float64]) :
    a.compute column v f = .error (.unsupportedKind a.name column s.kind) := by
  refine bind_eq_error.mpr (.inr ⟨s, hs, ?_⟩)
  cases h : s.kind <;> simp [h] at hkind ⊢

namespace Expression

/-- The names of the columns that an expression refers to. -/
def columnNames (e : Expression) : List String :=
  e.function.inputColumn?.toList ++ e.window.partitionBy ++ e.window.orderBy.map SortKey.column

/-- The **errors of the schema**: a column that the table does not have, and an aggregate of a
column that does not hold numbers. -/
inductive SchemaError (e : Expression) (t : Table) : QueryError → Prop
  | missing {name : String} (hname : name ∈ e.columnNames) (hmissing : name ∉ t.names) :
    SchemaError e t (.columnNotFound name)
  | unsupported {a : Aggregate} {column : String} {s : Source}
    (hfunction : e.function = .aggregate a column) (hs : t.column column = .ok s)
    (hkind : s.kind ∉ [Kind.int32, .int64, .float64]) :
    SchemaError e t (.unsupportedKind a.name column s.kind)

variable {e : Expression} {t : Table}

/-! ### Evaluation -/

/-- A missing input column is reported whatever the rows are. -/
theorem evaluate_eq_error_of_input (ht : t.Indexed) (hcheck : e.check = .ok ()) {name : String}
    (hname : name ∈ e.function.inputColumn?) (hmissing : name ∉ t.names) (schedule : Schedule) :
    e.evaluate schedule false t = .error (.columnNotFound name) := by
  have hkind : e.outputKind t = .error (.columnNotFound name) := by
    rw [outputKind, hname]
    exact bind_eq_error.mpr (.inl (ht.column_eq_error hmissing))
  rw [evaluate_eq]
  exact bind_eq_error.mpr (.inr ⟨(), hcheck, bind_eq_error.mpr (.inl hkind)⟩)

/-- Over a table without rows nothing but the input column is looked at. -/
theorem evaluate_of_rows_eq_zero (hrows : t.rows = 0) (hcheck : e.check = .ok ())
    (schedule : Schedule) :
    e.evaluate schedule false t =
      (e.outputKind t).map fun kind => Column.nulls e.displayName kind t.rows := by
  have hpartitions : t.partitions e.window.partitionBy = .ok [] := by
    rw [Table.partitions, if_pos hrows]
  rw [evaluate_eq, hcheck, hpartitions]
  rfl

/-- After the checks and the input column come the partitions. -/
theorem evaluate_eq_of_outputKind (hcheck : e.check = .ok ()) {kind : Kind}
    (hkind : e.outputKind t = .ok kind) (schedule : Schedule) :
    e.evaluate schedule false t = t.partitions e.window.partitionBy >>= fun partitions =>
      (partitions.mapM fun rows => (e.overRows schedule t rows).map fun segment =>
        (rows, segment)) >>= (Column.nulls e.displayName kind t.rows).gather := by
  rw [evaluate_eq, hcheck, hkind]
  rfl

section

variable (ht : t.Indexed) (hinput : ∀ name ∈ e.function.inputColumn?, name ∈ t.names)
  (hpartitionBy : ∀ name ∈ e.window.partitionBy, name ∈ t.names)
  (h : ∃ err, e.SchemaError t err)
include ht hinput hpartitionBy h

/-- What is left to be found once a table is split surfaces in every partition. -/
theorem exists_overRows_eq_error (schedule : Schedule) (rows : Array Nat) :
    ∃ err, e.SchemaError t err ∧ e.overRows schedule t rows = .error err := by
  by_cases hkeys : ∀ name ∈ e.window.orderBy.map SortKey.column, name ∈ t.names
  case neg =>
    -- keys are looked up before anything is computed
    obtain ⟨name, hname, hmissing, herror⟩ := ht.exists_columnsOf_eq_error hkeys
    refine ⟨_, .missing (List.mem_append_right _ hname) hmissing, bind_eq_error.mpr (.inl ?_)⟩
    have ordered : e.window.orderBy.isEmpty ≠ true := by
      intro hnone
      simp [List.isEmpty_iff.mp hnone] at hname
    rw [Partition.sort, if_neg ordered]
    exact bind_eq_error.mpr (.inl herror)
  obtain ⟨sources, hsources⟩ := ht.exists_columnsOf hkeys
  obtain ⟨v, hsort⟩ := Partition.exists_sort_of_columnsOf (p := ⟨t, rows⟩) hsources
    schedule.sortThreshold
  have hpartition : v.partition = ⟨t, rows⟩ := (Partition.sort_eq_ok hsort).1
  obtain ⟨err, hschema⟩ := h
  refine ⟨err, hschema, bind_eq_error.mpr (.inr ⟨v, hsort, ?_⟩)⟩
  cases hschema with
  | missing hname hmissing =>
    simp only [columnNames, List.mem_append, Option.mem_toList] at hname
    obtain (hname | hname) | hname := hname
    · exact absurd (hinput _ hname) hmissing
    · exact absurd (hpartitionBy _ hname) hmissing
    · exact absurd (hkeys _ hname) hmissing
  | unsupported hfunction hs hkind =>
    rw [hfunction]
    exact Aggregate.compute_eq_error (by rwa [hpartition]) hkind

end

/-- **Where there are rows, errors of the schema surface.** -/
theorem exists_evaluate_eq_error (ht : t.Indexed) (hrows : 0 < t.rows) (hcheck : e.check = .ok ())
    (h : ∃ err, e.SchemaError t err) (schedule : Schedule) :
    ∃ err, e.SchemaError t err ∧ e.evaluate schedule false t = .error err := by
  by_cases hinput : ∀ name ∈ e.function.inputColumn?, name ∈ t.names
  case neg =>
    simp only [not_forall] at hinput
    obtain ⟨name, hname, hmissing⟩ := hinput
    have named : name ∈ e.columnNames := by simp [columnNames, Option.mem_def.mp hname]
    exact ⟨_, .missing named hmissing, evaluate_eq_error_of_input ht hcheck hname hmissing schedule⟩
  obtain ⟨input, hkind⟩ := Function.exists_inputKind ht hinput
  have houtput : e.outputKind t = .ok (e.function.resultKind input) := by
    rw [outputKind_eq, hkind]
    rfl
  rw [evaluate_eq_of_outputKind hcheck houtput]
  by_cases hpartitionBy : ∀ name ∈ e.window.partitionBy, name ∈ t.names
  case neg =>
    obtain ⟨name, hname, hmissing, herror⟩ := ht.exists_columnsOf_eq_error hpartitionBy
    have named : name ∈ e.columnNames := by simp [columnNames, hname]
    have partitioned : e.window.partitionBy.isEmpty ≠ true := by
      intro hnone
      simp [List.isEmpty_iff.mp hnone] at hname
    refine ⟨_, .missing named hmissing, bind_eq_error.mpr (.inl ?_)⟩
    rw [Table.partitions_eq, if_neg (Nat.ne_of_gt hrows), if_neg partitioned, herror]
    rfl
  -- the first partition fails, and so does the pass
  obtain ⟨splitters, hsplitters⟩ := ht.exists_columnsOf hpartitionBy
  obtain ⟨rows, rest, hpartitions⟩ := Table.exists_first_partition hrows hsplitters
  obtain ⟨err, hschema, herror⟩ :=
    exists_overRows_eq_error ht hinput hpartitionBy h schedule rows
  refine ⟨err, hschema, bind_eq_error.mpr (.inr ⟨_, hpartitions, bind_eq_error.mpr (.inl ?_)⟩)⟩
  rw [List.mapM_cons, herror]
  rfl

/-- **Errors of the schema** surface over every table with rows. A missing input column does over
every table, and over a table without rows it is the only one that does. -/
theorem evaluate_schemaError {sources : List Source} (ht : Table.ofSources sources = .ok t)
    (hcheck : e.check = .ok ()) (schedule : Schedule) :
    (∀ name ∈ e.function.inputColumn?, name ∉ t.names →
      e.evaluate schedule false t = .error (.columnNotFound name)) ∧
    (0 < t.rows → (∃ err, e.SchemaError t err) →
      ∃ err, e.SchemaError t err ∧ e.evaluate schedule false t = .error err) ∧
    (t.rows = 0 → (∀ name ∈ e.function.inputColumn?, name ∈ t.names) →
      ∃ out, e.evaluate schedule false t = .ok out) := by
  have indexed := (Table.indexed_ofSources ht).1
  refine ⟨fun name hname hmissing => ?_, fun hrows h => ?_, fun hrows hinput => ?_⟩
  · exact evaluate_eq_error_of_input indexed hcheck hname hmissing schedule
  · exact exists_evaluate_eq_error indexed hrows hcheck h schedule
  · obtain ⟨input, hkind⟩ := Function.exists_inputKind indexed hinput
    rw [evaluate_of_rows_eq_zero hrows hcheck, outputKind_eq, hkind]
    exact ⟨_, rfl⟩

/-- A table of labels. -/
private def labels (values : Array (Option String)) : Table :=
  ⟨[.typed ⟨"s", .text values⟩], [("s", 0)]⟩

/-- Rows are counted by a column that the labels do not have. -/
private def byMissing : Expression := ⟨.countRows, { partitionBy := ["nope"] }, none⟩

/-- Rows are counted along a column that the labels do not have. -/
private def alongMissing : Expression := ⟨.countRows, { orderBy := [⟨"nope", true⟩] }, none⟩

/-- Labels are no numbers. -/
private def sumOfLabels : Expression := ⟨.aggregate .sum "s", {}, none⟩

private theorem labels_schemaError (values : Array (Option String)) :
    ∀ e ∈ [byMissing, alongMissing, sumOfLabels],
      e.check = .ok () ∧ ∃ err, e.SchemaError (labels values) err := by
  have missing : "nope" ∉ (labels values).names := show "nope" ∉ ["s"] by decide
  have named : ∀ e ∈ [byMissing, alongMissing], "nope" ∈ e.columnNames := by decide
  have kind : Kind.text ∉ [Kind.int32, .int64, .float64] := by decide
  refine List.forall_mem_cons.mpr ⟨⟨rfl, _, .missing (named byMissing (by simp)) missing⟩, ?_⟩
  refine List.forall_mem_cons.mpr ⟨⟨rfl, _, .missing (named alongMissing (by simp)) missing⟩, ?_⟩
  exact List.forall_mem_singleton.mpr ⟨rfl, _, .unsupported rfl rfl kind⟩

theorem evaluate_schemaError_labels :
    (∀ e ∈ [byMissing, alongMissing, sumOfLabels],
      ∃ err, e.evaluate .standard false (labels #[some "a"]) = .error err) ∧
      Expression.evaluate ⟨.count "nope", {}, none⟩ .standard false (labels #[]) =
        .error (.columnNotFound "nope") ∧
      ∃ out, sumOfLabels.evaluate .standard false (labels #[]) = .ok out := by
  have ht (values : Array (Option String)) :
      Table.ofSources [.typed ⟨"s", .text values⟩] = .ok (labels values) := rfl
  refine ⟨fun e he => ?_, ?_, ?_⟩
  · obtain ⟨hcheck, h⟩ := labels_schemaError #[some "a"] e he
    obtain ⟨err, -, herror⟩ :=
      (evaluate_schemaError (ht #[some "a"]) hcheck .standard).2.1 (by decide) h
    exact ⟨err, herror⟩
  · exact (evaluate_schemaError (ht #[]) rfl .standard).1 "nope" rfl (by decide)
  · exact (evaluate_schemaError (ht #[]) rfl .standard).2.2 rfl (by decide)

/-- An error of the schema goes **unnoticed** when a table is evaluated all the same. -/
private def Unnoticed (e : Expression) (t : Table) : Prop :=
  e.check = .ok () ∧ (∃ err, e.SchemaError t err) ∧
    ¬ ∃ err, e.evaluate .standard false t = .error err

/-- Without rows a missing partition column, a missing sort key and an aggregate of texts all go
unnoticed. -/
theorem evaluate_schemaError_needs_rows :
    byMissing.Unnoticed (labels #[]) ∧ alongMissing.Unnoticed (labels #[]) ∧
      sumOfLabels.Unnoticed (labels #[]) := by
  have unnoticed {e : Expression} (he : e ∈ [byMissing, alongMissing, sumOfLabels])
      (succeeds : ∃ out, e.evaluate .standard false (labels #[]) = .ok out) :
      e.Unnoticed (labels #[]) := by
    obtain ⟨hcheck, h⟩ := labels_schemaError #[] e he
    refine ⟨hcheck, h, ?_⟩
    rwa [exists_error_iff, not_not]
  exact ⟨unnoticed (by simp) ⟨_, rfl⟩, unnoticed (by simp) ⟨_, rfl⟩, unnoticed (by simp) ⟨_, rfl⟩⟩

end Expression

end WindowQuery
