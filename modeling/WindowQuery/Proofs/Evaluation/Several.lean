import Mathlib
import WindowQuery.Proofs.Evaluation.Gather
import WindowQuery.Proofs.Table.Indexed

/-!
# Evaluating several expressions

Several expressions are evaluated one by one over a table as it was given, and every value becomes
one more column. A value has a cell for every row, so a column can only be refused for its name.

That makes the evaluations independent of one another (`Table.evaluateAll_outcome`). They succeed
together when each succeeds and no name occurs twice, and in any order of the expressions. Otherwise
the first expression that cannot be evaluated, or whose name is taken, is reported.
-/

namespace WindowQuery

/-! ### The value of one expression -/

namespace Expression

variable {e : Expression} {schedule : Schedule} {cancelled : Bool} {t : Table}

/-- A value has the name of its expression and a cell for every row. -/
theorem name_size_of_evaluate {c : Column} (h : e.evaluate schedule cancelled t = .ok c) :
    c.name = e.displayName ∧ c.size = t.rows := by
  cases cancelled with
  | true =>
    have stops : e.evaluate schedule true t = e.check >>= fun _ => .error .cancelled := rfl
    obtain ⟨_, -, h⟩ := bind_eq_ok.mp (stops.symm.trans h)
    cases h
  | false =>
    obtain ⟨hcheck, kind, partitions, hkind, hpartitions, computed⟩ := exists_of_evaluate h
    obtain ⟨out, hout, hname, -, hsize, -⟩ :=
      exists_evaluate schedule hcheck hkind hpartitions computed
    cases h.symm.trans hout
    exact ⟨hname, hsize⟩

end Expression

namespace Table

/-! ### Expressions that go together -/

/-- A table **accepts** expressions when each can be evaluated over it and their names are new and
differ from one another. -/
structure Accepts (t : Table) (schedule : Schedule) (cancelled : Bool)
    (expressions : List Expression) : Prop where
  evaluates : ∀ e ∈ expressions, ∃ c, e.evaluate schedule cancelled t = .ok c
  apart : (expressions.map Expression.displayName).Nodup
  free : ∀ e ∈ expressions, e.displayName ∉ t.names

/-- A table **refuses** an expression behind others with the error of its evaluation or, where it
can be evaluated, because its name is taken by a column or by one of the others. -/
inductive Refuses (t : Table) (schedule : Schedule) (cancelled : Bool) (earlier : List Expression)
    (e : Expression) : QueryError → Prop
  | evaluation {err : QueryError} (h : e.evaluate schedule cancelled t = .error err) :
      Refuses t schedule cancelled earlier e err
  | name {c : Column} (h : e.evaluate schedule cancelled t = .ok c)
      (taken : e.displayName ∈ t.names ∨ e.displayName ∈ earlier.map Expression.displayName) :
      Refuses t schedule cancelled earlier e (.duplicateColumn e.displayName)

/-- Columns that are the values of expressions over a table, in order. -/
abbrev Values (t : Table) (schedule : Schedule) (cancelled : Bool)
    (expressions : List Expression) (values : List Column) : Prop :=
  List.Forall₂ (fun e c => e.evaluate schedule cancelled t = .ok c) expressions values

variable {t : Table} {schedule : Schedule} {cancelled : Bool} {expressions : List Expression}

theorem Accepts.perm {expressions' : List Expression} (h : t.Accepts schedule cancelled expressions)
    (hperm : expressions'.Perm expressions) : t.Accepts schedule cancelled expressions' where
  evaluates e he := h.evaluates e (hperm.subset he)
  apart := (hperm.map _).nodup_iff.mpr h.apart
  free e he := h.free e (hperm.subset he)

/-- Values are named by their expressions. -/
theorem Values.map_name {values : List Column}
    (h : t.Values schedule cancelled expressions values) :
    (values.map Source.typed).map Source.name = expressions.map Expression.displayName := by
  rw [List.map_map]
  induction h with
  | nil => rfl
  | cons hvalue _ ih =>
    rw [List.map_cons, List.map_cons, ih, ← (Expression.name_size_of_evaluate hvalue).1]
    rfl

/-- Values are as long as the table. -/
theorem Values.size {values : List Column} (h : t.Values schedule cancelled expressions values) :
    ∀ s ∈ values.map Source.typed, s.size = t.rows := by
  induction h with
  | nil => simp
  | cons hvalue _ ih =>
    rw [List.map_cons, List.forall_mem_cons]
    exact ⟨(Expression.name_size_of_evaluate hvalue).2, ih⟩

/-- What several expressions come to: their values, added one by one. -/
theorem evaluateAll_eq_ok {out : Table} : t.evaluateAll schedule cancelled expressions = .ok out ↔
    ∃ values, t.Values schedule cancelled expressions values ∧
      (values.map Source.typed).foldlM add t = .ok out := by
  have steps : t.evaluateAll schedule cancelled expressions =
      expressions.foldlM (fun out e => e.evaluate schedule cancelled t >>= fun c =>
        out.add (.typed c)) t := rfl
  rw [steps, foldlM_bind_eq_ok]
  simp only [mapM_eq_ok, List.foldlM_map]

/-- **Expressions are evaluated together** exactly when they are accepted. -/
theorem Indexed.exists_evaluateAll_iff (ht : t.Indexed) :
    (∃ out, t.evaluateAll schedule cancelled expressions = .ok out) ↔
      t.Accepts schedule cancelled expressions := by
  -- the values have the names of the expressions, whatever they are
  have names {values : List Column} (hvalues : t.Values schedule cancelled expressions values) :
      (∃ out, (values.map Source.typed).foldlM Table.add t = .ok out) ↔
        (expressions.map Expression.displayName).Nodup ∧
          ∀ e ∈ expressions, e.displayName ∉ t.names := by
    rw [ht.exists_foldlM_add_iff hvalues.size, hvalues.map_name, List.forall_mem_map]
  simp only [evaluateAll_eq_ok]
  constructor
  · rintro ⟨out, values, hvalues, hout⟩
    obtain ⟨apart, free⟩ := (names hvalues).mp ⟨out, hout⟩
    exact ⟨exists_of_mapM (mapM_eq_ok.mpr hvalues), apart, free⟩
  · intro h
    obtain ⟨values, hvalues⟩ := exists_mapM h.evaluates
    rw [mapM_eq_ok] at hvalues
    obtain ⟨out, hout⟩ := (names hvalues).mpr ⟨h.apart, h.free⟩
    exact ⟨out, values, hvalues, hout⟩

/-- **One more expression** fails behind others when it is refused. -/
theorem Indexed.add_evaluate_eq_error_iff (ht : t.Indexed) {out : Table}
    (hout : t.evaluateAll schedule cancelled expressions = .ok out) {e : Expression}
    {err : QueryError} :
    (e.evaluate schedule cancelled t >>= fun c => out.add (.typed c)) = .error err ↔
      t.Refuses schedule cancelled expressions e err := by
  obtain ⟨values, hvalues, hadded⟩ := evaluateAll_eq_ok.mp hout
  have indexed : out.Indexed := ht.foldlM_add hadded
  have names : out.names = t.names ++ expressions.map Expression.displayName := by
    rw [Table.names, columns_foldlM_add hadded, List.map_append, hvalues.map_name]
    rfl
  -- values have the length of the table, so only a name that is taken is refused
  have refused {c : Column} (hc : e.evaluate schedule cancelled t = .ok c) :
      out.add (.typed c) = .error err ↔
        (e.displayName ∈ t.names ∨ e.displayName ∈ expressions.map Expression.displayName) ∧
          err = .duplicateColumn e.displayName := by
    obtain ⟨hname, hsize⟩ := Expression.name_size_of_evaluate hc
    have size : (Source.typed c).size = out.rows :=
      hsize.trans (rows_foldlM_add hvalues.size hadded).symm
    rw [indexed.add_eq_error_iff size, names, List.mem_append, Source.name, hname]
  rw [bind_eq_error]
  constructor
  · rintro (h | ⟨c, hc, h⟩)
    · exact .evaluation h
    · obtain ⟨taken, rfl⟩ := (refused hc).mp h
      exact .name hc taken
  · rintro (h | ⟨hc, taken⟩)
    · exact .inl h
    · exact .inr ⟨_, hc, (refused hc).mpr ⟨taken, rfl⟩⟩

/-- **The first expression that is refused** is reported. -/
theorem Indexed.evaluateAll_eq_error_iff (ht : t.Indexed) {err : QueryError} :
    t.evaluateAll schedule cancelled expressions = .error err ↔
      ∃ earlier e later, expressions = earlier ++ e :: later ∧
        t.Accepts schedule cancelled earlier ∧ t.Refuses schedule cancelled earlier e err := by
  unfold evaluateAll
  rw [foldlM_eq_error]
  constructor
  · rintro ⟨earlier, e, later, out, hsplit, hout, herr⟩
    exact ⟨earlier, e, later, hsplit, ht.exists_evaluateAll_iff.mp ⟨out, hout⟩,
      (ht.add_evaluate_eq_error_iff hout).mp herr⟩
  · rintro ⟨earlier, e, later, hsplit, haccepts, hrefuses⟩
    obtain ⟨out, hout⟩ := ht.exists_evaluateAll_iff.mpr haccepts
    exact ⟨earlier, e, later, out, hsplit, hout, (ht.add_evaluate_eq_error_iff hout).mpr hrefuses⟩

/-- **Evaluations are independent of one another.** Expressions are evaluated together exactly when
each can be evaluated over the table and their names are new and differ. The result is the table of
the columns that were given and of the value that each expression has over these, in order, and
reordering the expressions reorders the values. Otherwise the expression that is refused behind
accepted ones is reported. -/
theorem evaluateAll_outcome {sources : List Source} (ht : ofSources sources = .ok t)
    (schedule : Schedule) (cancelled : Bool) (expressions : List Expression) :
    ((∃ out, t.evaluateAll schedule cancelled expressions = .ok out) ↔
      t.Accepts schedule cancelled expressions) ∧
    (∀ out, t.evaluateAll schedule cancelled expressions = .ok out →
      ∃ values, t.Values schedule cancelled expressions values ∧
        ofSources (sources ++ values.map .typed) = .ok out ∧
        out.columns = sources ++ values.map .typed ∧
        ∀ expressions' : List Expression, expressions'.Perm expressions →
          ∃ out' values', t.evaluateAll schedule cancelled expressions' = .ok out' ∧
            t.Values schedule cancelled expressions' values' ∧ values'.Perm values ∧
              out'.columns = sources ++ values'.map .typed) ∧
    ∀ err, t.evaluateAll schedule cancelled expressions = .error err ↔
      ∃ earlier e later, expressions = earlier ++ e :: later ∧
        t.Accepts schedule cancelled earlier ∧ t.Refuses schedule cancelled earlier e err := by
  obtain ⟨indexed, columns⟩ := indexed_ofSources ht
  refine ⟨indexed.exists_evaluateAll_iff, fun out hout => ?_,
    fun _ => indexed.evaluateAll_eq_error_iff⟩
  have accepts := indexed.exists_evaluateAll_iff.mp ⟨out, hout⟩
  obtain ⟨values, hvalues, hadded⟩ := evaluateAll_eq_ok.mp hout
  refine ⟨values, hvalues, ?_, ?_, fun expressions' hperm => ?_⟩
  · rw [ofSources_append, ht]
    exact hadded
  · rw [columns_foldlM_add hadded, columns]
  · obtain ⟨out', hout'⟩ := indexed.exists_evaluateAll_iff.mpr (accepts.perm hperm)
    obtain ⟨values', hvalues', hadded'⟩ := evaluateAll_eq_ok.mp hout'
    refine ⟨out', values', hout', hvalues', ?_, by rw [columns_foldlM_add hadded', columns]⟩
    -- an expression has one value only, so the reordered values are those of the reordered list
    obtain ⟨reordered, hreordered, hpermValues⟩ := List.perm_comp_forall₂ hperm hvalues
    have same := (mapM_eq_ok.mpr hreordered).symm.trans (mapM_eq_ok.mpr hvalues')
    cases same
    exact hpermValues

/-- Lengths of the jumps of two athletes. -/
private def jumps : List Source :=
  [.typed ⟨"athlete", .text #[some "a", some "b", some "a"]⟩,
    .typed ⟨"length", .int64 #[some 71, none, some 68]⟩]

/-- The jumps as a table, with its index of names. -/
private def jumpTable : Table := ⟨jumps, [("length", 1), ("athlete", 0)]⟩

/-- How many jumps of each athlete were measured. -/
private def measured : Expression :=
  ⟨.count "length", { partitionBy := ["athlete"] }, some "measured"⟩

/-- The place of each jump. -/
private def place : Expression := ⟨.rowNumber, { orderBy := [⟨"length", false⟩] }, some "place"⟩

private theorem jumpTable_values :
    measured.evaluate .standard false jumpTable =
      .ok ⟨"measured", .int64 #[some 2, some 0, some 2]⟩ ∧
    place.evaluate .standard false jumpTable = .ok ⟨"place", .int64 #[some 1, some 3, some 2]⟩ := by
  cbv
  exact ⟨rfl, rfl⟩

/-- The same expression once more would give a column of the same name. -/
theorem evaluateAll_outcome_jumps :
    (∃ out, jumpTable.evaluateAll .standard false [measured, place] = .ok out) ∧
      jumpTable.evaluateAll .standard false [measured, place, measured] =
        .error (.duplicateColumn "measured") := by
  have ht : ofSources jumps = .ok jumpTable := rfl
  obtain ⟨hmeasured, hplace⟩ := jumpTable_values
  have accepts : jumpTable.Accepts .standard false [measured, place] := by
    refine ⟨?_, by decide, by decide⟩
    rw [List.forall_mem_cons, List.forall_mem_singleton]
    exact ⟨⟨_, hmeasured⟩, _, hplace⟩
  constructor
  · exact (evaluateAll_outcome ht .standard false [measured, place]).1.mpr accepts
  · refine ((evaluateAll_outcome ht .standard false [measured, place, measured]).2.2 _).mpr
      ⟨[measured, place], measured, [], rfl, accepts, ?_⟩
    exact .name hmeasured (.inr List.mem_cons_self)

end Table

end WindowQuery
