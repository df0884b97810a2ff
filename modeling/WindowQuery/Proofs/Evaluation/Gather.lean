import WindowQuery.Evaluation
import WindowQuery.Proofs.Function.Segment
import WindowQuery.Proofs.Partition.Groups
import WindowQuery.Proofs.View.Sorted

/-!
# The result of an evaluation

The partitions of a table hold every row once (`Table.flatMap_partitions`), and the segments
computed over them are of the kind that the result column is made for. Gathering them can
therefore not fail, and it leaves every cell of a segment at the row it belongs to
(`Column.exists_gather`).

An evaluation therefore succeeds exactly when its checks pass, its columns exist and every
partition can be computed (`Expression.exists_evaluate_iff`), and the cell at a row is then the one
that its partition has for it (`Expression.cell_of_evaluate`).
-/

namespace WindowQuery

/-! ### Gathering segments -/

namespace Column

/-- A result column **takes** a segment for some of its rows. -/
structure Takes (out : Column) (rows : Array Nat) (segment : Column) : Prop where
  kind : segment.kind = out.kind
  size : segment.size = rows.size
  inside : ∀ row ∈ rows.toList, row < out.size

/-- **Gathering segments is exact** when no row occurs twice. -/
theorem exists_gather {out : Column} {segments : List (Array Nat × Column)}
    (takes : ∀ x ∈ segments, out.Takes x.1 x.2)
    (once : (segments.flatMap fun x => x.1.toList).Nodup) :
    ∃ d : Column, out.gather segments = .ok d ∧
      d.name = out.name ∧ d.kind = out.kind ∧ d.size = out.size ∧
      (∀ x ∈ segments, ∀ k row, x.1.toList[k]? = some row → d.cell row = x.2.cell k) ∧
      ∀ row ∉ segments.flatMap fun x => x.1.toList, d.cell row = out.cell row := by
  induction segments generalizing out with
  | nil => exact ⟨out, rfl, rfl, rfl, rfl, by simp, fun _ _ => rfl⟩
  | cons x rest ih =>
    obtain ⟨rows, segment⟩ := x
    obtain ⟨hx, hrest⟩ := List.forall_mem_cons.mp takes
    rw [List.flatMap_cons, List.nodup_append] at once
    obtain ⟨once, onceRest, apart⟩ := once
    obtain ⟨c, hscatter, hname, hkind, hsize, written, kept⟩ :=
      exists_scatter hx.kind (hx.size.trans (Array.length_toList).symm) hx.inside once
    have takesRest : ∀ y ∈ rest, c.Takes y.1 y.2 := fun y hy =>
      ⟨(hrest y hy).kind.trans hkind.symm, (hrest y hy).size, fun row hrow => by
        rw [hsize]
        exact (hrest y hy).inside row hrow⟩
    obtain ⟨d, hgather, hname', hkind', hsize', written', kept'⟩ := ih takesRest onceRest
    refine ⟨d, by rw [gather, hscatter]; exact hgather, hname'.trans hname, hkind'.trans hkind,
      hsize'.trans hsize, List.forall_mem_cons.mpr ⟨fun k row hrow => ?_, written'⟩,
      fun row hrow => ?_⟩
    · -- the segments that follow leave the rows of this one alone
      have later : row ∉ rest.flatMap fun x => x.1.toList :=
        fun hmem => apart row (List.mem_of_getElem? hrow) row hmem rfl
      rw [kept' row later, written k row hrow]
    · rw [List.flatMap_cons, List.mem_append, not_or] at hrow
      rw [kept' row hrow.2, kept row hrow.1]

end Column

namespace Expression

/-! ### Segments of partitions -/

/-- The kind of the result is that of the function for its input. -/
theorem outputKind_eq (e : Expression) (t : Table) :
    e.outputKind t = (e.function.inputKind t).map e.function.resultKind := by
  unfold outputKind Function.inputKind
  cases e.function.inputColumn? with
  | none => rfl
  | some name => cases h : t.column name <;> simp [h, bind, Except.bind, Except.map, pure, Except.pure]

/-- A partition is computed to a segment of the kind of the result. -/
theorem takes_overRows {e : Expression} {schedule : Schedule} {t : Table} {rows : Array Nat}
    {segment : Column} {kind : Kind} (h : e.overRows schedule t rows = .ok segment)
    (hkind : e.outputKind t = .ok kind) (hrows : ∀ row ∈ rows.toList, row < t.rows) :
    (Column.nulls e.displayName kind t.rows).Takes rows segment := by
  obtain ⟨v, hsort, hcompute⟩ := bind_eq_ok.mp h
  have hpartition : v.partition = ⟨t, rows⟩ := (Partition.sort_eq_ok hsort).1
  obtain ⟨input, hinput, hsegment⟩ := Function.isSegment_compute hcompute
  rw [hpartition] at hinput
  rw [outputKind_eq, hinput] at hkind
  cases hkind
  refine ⟨?_, ?_, fun row hrow => ?_⟩
  · exact hsegment.kind_eq.trans (Storage.kind_nulls _ _).symm
  · rw [hsegment.size_eq, (Partition.complete_of_sort hsort).size_eq, hpartition]
    rfl
  · rw [Column.size_nulls]
    exact hrows row hrow

/-! ### Evaluations -/

variable {e : Expression} {schedule : Schedule} {t : Table} {partitions : List (Array Nat)}

/-- The steps of an evaluation that is not cancelled. -/
theorem evaluate_eq (e : Expression) (schedule : Schedule) (t : Table) :
    e.evaluate schedule false t = e.check >>= fun _ => e.outputKind t >>= fun kind =>
      t.partitions e.window.partitionBy >>= fun partitions =>
        (partitions.mapM fun rows => (e.overRows schedule t rows).map fun segment =>
          (rows, segment)) >>= (Column.nulls e.displayName kind t.rows).gather := rfl

/-- **An evaluation succeeds** when its checks pass, its columns exist and every partition can be
computed. The cell at a row is then the one that its partition has for it. -/
theorem exists_evaluate (schedule : Schedule) (hcheck : e.check = .ok ()) {kind : Kind}
    (hkind : e.outputKind t = .ok kind)
    (hpartitions : t.partitions e.window.partitionBy = .ok partitions)
    (hrows : ∀ rows ∈ partitions, ∃ segment, e.overRows schedule t rows = .ok segment) :
    ∃ out, e.evaluate schedule false t = .ok out ∧
      out.name = e.displayName ∧ out.kind = kind.stored ∧ out.size = t.rows ∧
      ∀ rows ∈ partitions, ∀ segment, e.overRows schedule t rows = .ok segment →
        ∀ k row, rows.toList[k]? = some row → out.cell row = segment.cell k := by
  obtain ⟨segments, hsegments⟩ : ∃ segments, (partitions.mapM fun rows =>
      (e.overRows schedule t rows).map fun segment => (rows, segment)) = .ok segments := by
    refine exists_mapM ?_
    intro rows hmem
    obtain ⟨segment, hsegment⟩ := hrows rows hmem
    exact ⟨(rows, segment), map_eq_ok.mpr ⟨segment, hsegment, rfl⟩⟩
  obtain ⟨firsts, computed⟩ := mapM_pair_eq_ok.mp hsegments
  -- the segments cover the rows of the table, each of them once
  have perm : (segments.flatMap fun x => x.1.toList).Perm (List.range t.rows) := by
    rw [← List.flatMap_map Prod.fst, firsts]
    exact Table.flatMap_partitions hpartitions
  have takes : ∀ x ∈ segments, (Column.nulls e.displayName kind t.rows).Takes x.1 x.2 := by
    refine fun x hx => takes_overRows (computed x hx) hkind fun row hrow => ?_
    exact List.mem_range.mp (perm.mem_iff.mp (List.mem_flatMap.mpr ⟨x, hx, hrow⟩))
  obtain ⟨out, hgather, hname, hkind', hsize, written, -⟩ :=
    Column.exists_gather takes (perm.nodup_iff.mpr List.nodup_range)
  refine ⟨out, ?_, hname, hkind'.trans (Storage.kind_nulls _ _),
    hsize.trans (Column.size_nulls _ _ _), fun rows hmem segment hsegment k row hk => ?_⟩
  · rw [evaluate_eq]
    refine bind_eq_ok.mpr ⟨(), hcheck, bind_eq_ok.mpr ⟨kind, hkind, bind_eq_ok.mpr ?_⟩⟩
    exact ⟨partitions, hpartitions, bind_eq_ok.mpr ⟨segments, hsegments, hgather⟩⟩
  · rw [← firsts] at hmem
    obtain ⟨x, hx, rfl⟩ := List.mem_map.mp hmem
    obtain rfl := Except.ok.inj ((computed x hx).symm.trans hsegment)
    exact written x hx k row hk

/-- **Over typed columns an evaluation goes by groups.** When the group of every row can be computed
to cells that its rows determine, these are the cells of the result. -/
theorem exists_evaluate_groups (schedule : Schedule) {columns : List Column}
    (ht : Table.ofSources (columns.map .typed) = .ok t) (hcheck : e.check = .ok ()) {kind : Kind}
    (hkind : e.outputKind t = .ok kind)
    (hpartitionBy : ∀ name ∈ e.window.partitionBy, name ∈ t.names) (value : Nat → Cell)
    (hgroups : ∀ r < t.rows, ∃ segment,
      e.overRows schedule t (t.group e.window.partitionBy r).toArray = .ok segment ∧
        ∀ k r', (t.group e.window.partitionBy r)[k]? = some r' → segment.cell k = value r') :
    ∃ out, e.evaluate schedule false t = .ok out ∧ out.size = t.rows ∧
      ∀ r < t.rows, out.cell r = value r := by
  obtain ⟨splitters, hsplitters⟩ := (Table.indexed_ofSources ht).1.exists_columnsOf hpartitionBy
  obtain ⟨partitions, hpartitions, members⟩ := Table.exists_partitions hsplitters
    ((Table.typed_ofSources ht).splitsRows hsplitters)
  obtain ⟨out, hout, -, -, hsize, written⟩ :=
    exists_evaluate schedule hcheck hkind hpartitions fun rows hmem => by
      obtain ⟨r, hr, rfl⟩ := (members rows).mp hmem
      obtain ⟨segment, hsegment, -⟩ := hgroups r hr
      exact ⟨segment, hsegment⟩
  refine ⟨out, hout, hsize, ?_⟩
  intro r hr
  obtain ⟨segment, hsegment, cells⟩ := hgroups r hr
  obtain ⟨k, hk⟩ := List.mem_iff_getElem?.mp (Table.mem_group_self e.window.partitionBy hr)
  rw [written _ ((members _).mpr ⟨r, hr, rfl⟩) segment hsegment k r hk, cells k r hk]

/-- An evaluation that succeeds has passed its checks, found its columns and computed every
partition. -/
theorem exists_of_evaluate {out : Column} (h : e.evaluate schedule false t = .ok out) :
    e.check = .ok () ∧ ∃ kind partitions, e.outputKind t = .ok kind ∧
      t.partitions e.window.partitionBy = .ok partitions ∧
      ∀ rows ∈ partitions, ∃ segment, e.overRows schedule t rows = .ok segment := by
  rw [evaluate_eq] at h
  obtain ⟨_, hcheck, h⟩ := bind_eq_ok.mp h
  obtain ⟨kind, hkind, h⟩ := bind_eq_ok.mp h
  obtain ⟨partitions, hpartitions, h⟩ := bind_eq_ok.mp h
  obtain ⟨segments, hsegments, -⟩ := bind_eq_ok.mp h
  obtain ⟨rfl, computed⟩ := mapM_pair_eq_ok.mp hsegments
  refine ⟨hcheck, kind, _, hkind, hpartitions, ?_⟩
  intro rows hmem
  obtain ⟨x, hx, rfl⟩ := List.mem_map.mp hmem
  exact ⟨x.2, computed x hx⟩

/-- **Exactly then it succeeds.** -/
theorem exists_evaluate_iff (hpartitions : t.partitions e.window.partitionBy = .ok partitions) :
    (∃ out, e.evaluate schedule false t = .ok out) ↔
      e.check = .ok () ∧ (∃ kind, e.outputKind t = .ok kind) ∧
        ∀ rows ∈ partitions, ∃ segment, e.overRows schedule t rows = .ok segment := by
  constructor
  · rintro ⟨out, h⟩
    obtain ⟨hcheck, kind, partitions', hkind, hpartitions', computed⟩ := exists_of_evaluate h
    obtain rfl := Except.ok.inj (hpartitions.symm.trans hpartitions')
    exact ⟨hcheck, ⟨kind, hkind⟩, computed⟩
  · rintro ⟨hcheck, ⟨kind, hkind⟩, hrows⟩
    obtain ⟨out, hout, -⟩ := exists_evaluate schedule hcheck hkind hpartitions hrows
    exact ⟨out, hout⟩

/-- The cells of a result that there is. -/
theorem cell_of_evaluate {out : Column} (h : e.evaluate schedule false t = .ok out)
    (hpartitions : t.partitions e.window.partitionBy = .ok partitions) :
    out.size = t.rows ∧
      ∀ rows ∈ partitions, ∀ segment, e.overRows schedule t rows = .ok segment →
        ∀ k row, rows.toList[k]? = some row → out.cell row = segment.cell k := by
  obtain ⟨hcheck, ⟨kind, hkind⟩, hrows⟩ := (exists_evaluate_iff hpartitions).mp ⟨out, h⟩
  obtain ⟨out', h', -, -, hsize, written⟩ :=
    exists_evaluate schedule hcheck hkind hpartitions hrows
  obtain rfl := Except.ok.inj (h.symm.trans h')
  exact ⟨hsize, written⟩

end Expression

end WindowQuery
