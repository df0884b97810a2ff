import WindowQuery.Proofs.Evaluation.Gather
import WindowQuery.Proofs.Frame.Matching
import WindowQuery.Proofs.Function.Alike
import WindowQuery.Proofs.Function.Ranking
import WindowQuery.Proofs.Partition.Reorder

/-!
# Reordered tables are evaluated alike

RANGE and GROUPS frames never part rows that are peers, and rankings never part rows that tie. So
although a sort leaves tied rows in the order of the table, this order cannot be seen in counts,
sums and extremes of integers over such frames, nor in rankings: evaluated over the rows of a table
in another order, they give the same column with its rows in that order
(`Expression.evaluate_reordered`).
-/

namespace WindowQuery

/-! ### Reordered functions -/

/-- A tally of a restricted table tallies the origins of its rows. -/
theorem Function.Tallies.restrict {t : Table} {fn : Function} {value : List Nat → Int64}
    (h : fn.Tallies t value) (rows : List Nat) :
    ∃ value', fn.Tallies (t.restrict rows) value' ∧ ∀ ks : List Nat, (∀ k ∈ ks, k < rows.length) →
      value' ks = value (ks.map (Table.origin rows)) := by
  have column {name : String} {s : Source} (hs : t.column name = .ok s) :
      (t.restrict rows).column name = .ok (s.restrict rows) := by
    rw [Table.column_restrict, hs]
    rfl
  -- a row of the restricted table reads what its origin does
  have cell (s : Source) {ks : List Nat} (inside : ∀ k ∈ ks, k < rows.length) :
      ∀ k ∈ ks, (s.restrict rows).cell k = s.cell (Table.origin rows k) :=
    fun k hk => s.cell_restrict (Table.getElem?_origin (inside k hk))
  cases h with
  | countRows =>
    refine ⟨_, .countRows, fun ks _ => ?_⟩
    dsimp only
    rw [List.length_map]
  | @count name s hs =>
    refine ⟨_, .count (column hs), fun ks inside => congrArg Int64.ofNat ?_⟩
    rw [List.countP_map]
    refine List.countP_congr fun k hk => ?_
    rw [cell s inside k hk]
    rfl
  | @aggregate a name s bits ofInts hs hbits ha =>
    refine ⟨_, .aggregate (column hs) (by rwa [Source.kind_restrict]) ha, fun ks inside => ?_⟩
    refine congrArg (fun ints => Int64.ofInt (ofInts ints)) ?_
    rw [Source.ints, Source.ints, List.filterMap_map]
    refine List.filterMap_congr fun k hk => ?_
    rw [cell s inside k hk]
    rfl

/-! ### Reordered views -/

namespace View

section

variable {t : Table} (typed : t.Typed) {rows : List Nat} {rs ks : Array Nat}
  {sortKeys : List SortKey} {threshold threshold' : Nat} {v v' : View}
  (hsort : Partition.sort ⟨t, rs⟩ sortKeys threshold = .ok v)
  (hsort' : Partition.sort ⟨t.restrict rows, ks⟩ sortKeys threshold' = .ok v')
  (inside : ∀ k ∈ ks.toList, k < rows.length) {π : Nat → Nat}
  (h : v.RowsMatch v' (Table.origin rows) π)
include typed hsort hsort' inside h

omit typed hsort h in
/-- The rows of the reordered view have origins. -/
theorem rowAt_lt_of_sort {q : Nat} (hq : q < v'.size) : v'.rowAt q < rows.length := by
  refine inside _ ?_
  have member := (Partition.complete_of_sort hsort').rowAt_mem hq
  rwa [(Partition.sort_eq_ok hsort').1] at member

/-- **Frames match** in the reordered view. -/
theorem RowsMatch.framesMatch {f : Frame} (hunit : f.unit ≠ .rows)
    (hoffsets : ∀ o ∈ f.offsets, ∃ n, o = .int n) : v.FramesMatch v' f f π := by
  obtain ⟨partition, keys, ⟨rfl, hv⟩ | ⟨sources, hv⟩⟩ := Partition.sort_eq_ok hsort
  · obtain ⟨-, keys', -⟩ := Partition.sort_eq_ok hsort'
    exact framesMatch_unordered h.size h.rearranges (by rw [isOrdered, keys]; rfl)
      (by rw [isOrdered, keys']; rfl) hunit
  obtain ⟨partition', keys', ⟨rfl, -⟩ | ⟨sources', hv'⟩⟩ := Partition.sort_eq_ok hsort'
  · exact absurd keys hv.keyed
  obtain ⟨first, others, s, rest, hkeys, hsources⟩ := hv.exists_first
  have hkeys' : v'.sortKeys = first :: others := by rw [keys', ← keys, hkeys]
  have hmatch : v.ValuesMatch v' π := by
    refine ⟨h.size, h.rearranges, fun q hq => ?_⟩
    have hq' : q < v'.size := h.size ▸ hq
    have origin := t.cell_origin (rowAt_lt_of_sort hsort' inside hq') first.column
    rw [hv.orderValueAt_eq_cell hkeys (h.rearranges.lt q hq), hv'.orderValueAt_eq_cell hkeys' hq',
      h.rowAt q hq, partition, partition', origin]
  -- the order values stand in one typed column
  have columns := hv.columns
  rw [partition, hsources] at columns
  obtain ⟨c, rfl⟩ := typed s (Table.mem_columns_of_columnsOf columns s List.mem_cons_self)
  have hcells : ∀ q, q < v.size → (v.orderValueAt q).hasKind c.storage.kind = true := by
    intro q hq
    rw [hv.orderValueAt_eq hsources hq]
    exact c.storage.hasKind_cell _
  refine hv.framesMatch hv' hcells hmatch ?_ hunit hoffsets
  rw [isAscending, isAscending, hkeys, hkeys']

/-- **Ties match** in the reordered view. -/
theorem RowsMatch.tiesMatch : v.TiesMatch v' π := by
  obtain ⟨partition, keys, ⟨rfl, hv⟩ | ⟨sources, hv⟩⟩ := Partition.sort_eq_ok hsort
  · obtain ⟨partition', keys', ⟨-, hv'⟩ | ⟨sources', hv'⟩⟩ := Partition.sort_eq_ok hsort'
    · exact h.tiesMatch_arrival (by rw [partition]; exact hv) (by rw [partition']; exact hv')
    · exact absurd keys' hv'.keyed
  obtain ⟨partition', keys', ⟨rfl, -⟩ | ⟨sources', hv'⟩⟩ := Partition.sort_eq_ok hsort'
  · exact absurd keys hv.keyed
  have columns := hv.columns
  have columns' := hv'.columns
  rw [partition] at columns
  rw [partition'] at columns'
  refine SortedBy.tiesMatch h hv hv' (Table.Typed.ordersRows columns typed)
    (Table.Typed.ordersRows columns' (typed.restrict rows)) ?_
  intro i hi j hj
  have hi' : i < v'.size := h.size ▸ hi
  have hj' : j < v'.size := h.size ▸ hj
  rw [hv'.tieOrder_eq_rowOrder hi' hj',
    hv.tieOrder_eq_rowOrder (h.rearranges.lt i hi) (h.rearranges.lt j hj), h.rowAt i hi,
    h.rowAt j hj, keys, keys', partition, partition']
  exact t.rowOrder_restrict (rowAt_lt_of_sort hsort' inside hi')
    (rowAt_lt_of_sort hsort' inside hj') sortKeys

/-- **Tallies agree** in the reordered view. -/
theorem RowsMatch.exists_compute_of_tallies {fn : Function} {value : List Nat → Int64}
    (hfn : fn.Tallies t value) {f : Frame} (hunit : f.unit ≠ .rows)
    (hoffsets : ∀ o ∈ f.offsets, ∃ n, o = .int n) {c : Column} (hc : fn.compute v f = .ok c) :
    ∃ c', fn.compute v' f = .ok c' ∧
      ∀ i < v.size, c'.cell (v'.slotAt i) = c.cell (v.slotAt (π i)) := by
  have hframes := h.framesMatch typed hsort hsort' inside hunit hoffsets
  obtain ⟨value', hfn', carried⟩ := hfn.restrict rows
  -- the two tallies agree on positions that match, in whatever order they come
  have values : ∀ qs' qs : List Nat, (∀ q ∈ qs', q < v.size) → (qs'.map π).Perm qs →
      value' (qs'.map v'.rowAt) = value (qs.map v.rowAt) := by
    intro qs' qs hqs' hperm
    have origins : (qs'.map v'.rowAt).map (Table.origin rows) = (qs'.map π).map v.rowAt := by
      rw [List.map_map, List.map_map]
      exact List.map_congr_left fun q hq => (h.rowAt q (hqs' q hq)).symm
    have reordered : ∀ k ∈ qs'.map v'.rowAt, k < rows.length := by
      intro k hk
      obtain ⟨q, hq, rfl⟩ := List.mem_map.mp hk
      exact rowAt_lt_of_sort hsort' inside (h.size ▸ hqs' q hq)
    rw [carried _ reordered, origins]
    exact hfn.perm (hperm.map _)
  have tallies : fn.Tallies v.partition.table value := by
    rwa [(Partition.sort_eq_ok hsort).1]
  have tallies' : fn.Tallies v'.partition.table value' := by
    rwa [(Partition.sort_eq_ok hsort').1]
  obtain ⟨c₀, c', hc₀, hc', cells⟩ := hframes.exists_compute (Partition.complete_of_sort hsort)
    (Partition.complete_of_sort hsort') tallies tallies' values (tallies.resolves hc)
  obtain rfl := Except.ok.inj (hc.symm.trans hc₀)
  exact ⟨c', hc', cells⟩

/-- **Rankings agree** in the reordered view. -/
theorem RowsMatch.cell_ranking (r : Ranking) : ∀ i < v.size,
    (r.storageOf v').cell (v'.slotAt i) = (r.storageOf v).cell (v.slotAt (π i)) :=
  (h.tiesMatch typed hsort hsort' inside).cell_storageOf h.size h.rearranges
    (Partition.complete_of_sort hsort) (Partition.complete_of_sort hsort') r

end

end View

/-! ### Reordered partitions -/

/-- A restricted table can be sorted by the columns of the table. -/
theorem Partition.exists_sort_restrict {t : Table} {rs : Array Nat} {sortKeys : List SortKey}
    {threshold : Nat} {v : View} (h : sort ⟨t, rs⟩ sortKeys threshold = .ok v) (rows : List Nat)
    (ks : Array Nat) (threshold' : Nat) :
    ∃ v', sort ⟨t.restrict rows, ks⟩ sortKeys threshold' = .ok v' := by
  obtain ⟨partition, keys, ⟨rfl, -⟩ | ⟨sources, hv⟩⟩ := sort_eq_ok h
  · exact ⟨_, rfl⟩
  · have columns := hv.columns
    rw [partition, keys] at columns
    exact ⟨_, sort_eq_viewBy ⟨t.restrict rows, ks⟩ (keys ▸ hv.keyed)
      (Table.columnsOf_restrict columns rows) threshold'⟩

namespace Expression

section

variable {e : Expression} {t : Table} (typed : t.Typed) (hunit : e.window.frame.unit ≠ .rows)
  (hoffsets : ∀ o ∈ e.window.frame.offsets, ∃ n, o = .int n)
  (hfunction : (∃ value, e.function.Tallies t value) ∨ ∃ r, e.function = .ranking r)
include typed hunit hoffsets hfunction

/-- Rows of the reordered table are computed as their origins are. -/
theorem exists_overRows_restrict {rows : List Nat} {rs ks : Array Nat} (once : rs.toList.Nodup)
    (inside : ∀ k ∈ ks.toList, k < rows.length)
    (perm : (ks.toList.map (Table.origin rows)).Perm rs.toList) {schedule : Schedule}
    {segment : Column} (hsegment : e.overRows schedule t rs = .ok segment) (schedule' : Schedule) :
    ∃ segment', e.overRows schedule' (t.restrict rows) ks = .ok segment' ∧
      ∀ j j' k, rs.toList[j]? = some (Table.origin rows k) → ks.toList[j']? = some k →
        segment'.cell j' = segment.cell j := by
  obtain ⟨v, hsort, hcompute⟩ := bind_eq_ok.mp hsegment
  obtain ⟨v', hsort'⟩ := Partition.exists_sort_restrict hsort rows ks schedule'.sortThreshold
  have partition : v.partition = ⟨t, rs⟩ := (Partition.sort_eq_ok hsort).1
  have partition' : v'.partition = ⟨t.restrict rows, ks⟩ := (Partition.sort_eq_ok hsort').1
  have complete := Partition.complete_of_sort hsort
  have complete' := Partition.complete_of_sort hsort'
  obtain ⟨π, hmatch⟩ := complete.exists_rowsMatch complete' (by rwa [partition])
    (by rwa [partition, partition'])
  have agree : ∃ segment', e.function.compute v' e.window.frame = .ok segment' ∧
      ∀ i < v.size, segment'.cell (v'.slotAt i) = segment.cell (v.slotAt (π i)) := by
    rcases hfunction with ⟨value, hvalue⟩ | ⟨r, hr⟩
    · exact hmatch.exists_compute_of_tallies typed hsort hsort' inside hvalue hunit hoffsets hcompute
    · rw [hr] at hcompute ⊢
      cases hcompute
      exact ⟨_, rfl, hmatch.cell_ranking typed hsort hsort' inside r⟩
  obtain ⟨segment', hcompute', cells⟩ := agree
  refine ⟨segment', bind_eq_ok.mpr ⟨v', hsort', hcompute'⟩, fun j j' k hj hk => ?_⟩
  -- the slots of a row and of its origin belong to positions that correspond
  obtain ⟨q, hq, rfl, rfl⟩ := complete'.exists_rowAt_eq (by rwa [partition'])
  rw [hmatch.size] at hq
  have origin := Partition.getElem?_rows (complete.slotAt_lt (hmatch.rearranges.lt q hq))
  rw [partition] at origin
  have slot : v.slotAt (π q) = j := by
    refine (List.getElem?_inj (List.getElem?_eq_some_iff.mp origin).1 once).mp ?_
    rw [origin, hj, ← hmatch.rowAt q hq, View.rowAt, partition]
  rw [cells q hq, slot]

/-- The group of a row is computed as the group of its origin is. -/
theorem exists_overRows_group {rows : List Nat} (hrows : rows.Perm (List.range t.rows))
    (names : List String) {k : Nat} (hk : k < t.rows) {schedule : Schedule} {segment : Column}
    (hsegment : e.overRows schedule t (t.group names (Table.origin rows k)).toArray = .ok segment)
    (schedule' : Schedule) :
    ∃ segment', e.overRows schedule' (t.restrict rows) ((t.restrict rows).group names k).toArray =
        .ok segment' ∧
      ∃ j j', (t.group names (Table.origin rows k))[j]? = some (Table.origin rows k) ∧
        ((t.restrict rows).group names k)[j']? = some k ∧ segment'.cell j' = segment.cell j := by
  obtain ⟨length, hrestrict⟩ := Table.rows_reorder hrows
  have once := (t.pairwise_group names (Table.origin rows k)).imp Nat.ne_of_lt
  have inside : ∀ k' ∈ ((t.restrict rows).group names k).toArray.toList, k' < rows.length := by
    intro k' hk'
    rw [length, ← hrestrict]
    exact (Table.mem_group.mp hk').1
  obtain ⟨segment', hsegment', cells⟩ := exists_overRows_restrict typed hunit hoffsets hfunction once
    inside (Table.map_origin_group hrows _ hk) hsegment schedule'
  -- a row and its origin stand in their groups
  obtain ⟨j, hj⟩ := List.mem_iff_getElem?.mp (Table.mem_group_self names (Table.origin_lt hrows hk))
  have hk' : k < (t.restrict rows).rows := by rwa [hrestrict]
  obtain ⟨j', hj'⟩ := List.mem_iff_getElem?.mp (Table.mem_group_self names hk')
  exact ⟨segment', hsegment', j, j', hj, hj', cells j j' k hj hj'⟩

end

/-- **Reordered tables are evaluated alike.** Over typed columns, whenever an expression with a
RANGE or GROUPS frame and integer offsets has a value, and its function tallies or ranks rows, the
table of the same rows in another order has this value too, in that order of its rows. -/
theorem evaluate_reordered {columns : List Column} {t : Table}
    (ht : Table.ofSources (columns.map .typed) = .ok t) {rows : List Nat}
    (hrows : rows.Perm (List.range t.rows)) {e : Expression} (hunit : e.window.frame.unit ≠ .rows)
    (hoffsets : ∀ o ∈ e.window.frame.offsets, ∃ n, o = .int n)
    (hfunction : (∃ value, e.function.Tallies t value) ∨ ∃ r, e.function = .ranking r)
    (schedule schedule' : Schedule) {out : Column} (hout : e.evaluate schedule false t = .ok out) :
    ∃ t', Table.ofSources ((columns.map fun c => c.restrict rows).map .typed) = .ok t' ∧
      e.evaluate schedule' false t' = .ok (out.restrict rows) := by
  have typed := Table.typed_ofSources ht
  have restricted : (columns.map fun c => c.restrict rows).map Source.typed =
      (columns.map Source.typed).map fun s => s.restrict rows := by
    rw [List.map_map, List.map_map]
    rfl
  refine ⟨t.restrict rows, restricted ▸ Table.ofSources_restrict ht rows, ?_⟩
  obtain ⟨length, hrestrict⟩ := Table.rows_reorder hrows
  obtain ⟨hcheck, kind, partitions, hkind, hpartitions, computed⟩ := exists_of_evaluate hout
  have hkind' : e.outputKind (t.restrict rows) = .ok kind := by
    rw [← hkind, outputKind_eq, outputKind_eq]
    exact congrArg (Except.map _)
      ((Partition.alike_restrict t rows.toArray).inputKind_eq e.function).symm
  obtain ⟨out₀, hout₀, name, kinds, size, written⟩ :=
    exists_evaluate schedule hcheck hkind hpartitions computed
  obtain rfl := Except.ok.inj (hout.symm.trans hout₀)
  obtain ⟨partitions', hpartitions'⟩ := Table.exists_partitions_reorder hrows hpartitions
  have members := (typed.restrict rows).mem_partitions_iff hpartitions'
  rw [hrestrict] at members
  have group {k : Nat} (hk : k < t.rows) :=
    (typed.mem_partitions_iff hpartitions _).mpr ⟨_, Table.origin_lt hrows hk, rfl⟩
  have reordered {k : Nat} (hk : k < t.rows) {segment : Column} (hsegment : e.overRows schedule t
      (t.group e.window.partitionBy (Table.origin rows k)).toArray = .ok segment) :=
    exists_overRows_group typed hunit hoffsets hfunction hrows e.window.partitionBy hk hsegment
      schedule'
  -- every group of the reordered table has a segment, since that of its origin has one
  obtain ⟨out', hout', name', kinds', size', written'⟩ :=
    exists_evaluate schedule' hcheck hkind' hpartitions' fun ks hks => by
      obtain ⟨k, hk, rfl⟩ := (members ks).mp hks
      obtain ⟨segment, hsegment⟩ := computed _ (group hk)
      obtain ⟨segment', hsegment', -⟩ := reordered hk hsegment
      exact ⟨segment', hsegment'⟩
  rw [hout']
  refine congrArg Except.ok (Column.eq_of_cells (name'.trans name.symm) ?_ ?_ ?_)
  · exact (kinds'.trans kinds.symm).trans (out.storage.kind_restrict rows).symm
  · rw [size', hrestrict, ← length]
    exact (out.storage.size_restrict rows).symm
  · intro k hk
    rw [size', hrestrict] at hk
    have origin := Table.getElem?_origin (length.symm ▸ hk)
    obtain ⟨segment, hsegment⟩ := computed _ (group hk)
    obtain ⟨segment', hsegment', j, j', hj, hj', cell⟩ := reordered hk hsegment
    -- a cell is found in the segment of its group, which agrees with that of its origin
    calc out'.cell k
        = segment'.cell j' := written' _ ((members _).mpr ⟨k, hk, rfl⟩) segment' hsegment' j' k hj'
      _ = segment.cell j := cell
      _ = out.cell (Table.origin rows k) := (written _ (group hk) segment hsegment j _ hj).symm
      _ = (out.restrict rows).cell k := (out.storage.cell_restrict origin).symm

/-- Shifts of two teams, two of them on one day. -/
private def shifts : List Column :=
  [⟨"team", .text #[some "a", some "b", some "a", some "a"]⟩,
    ⟨"day", .int64 #[some 2, some 1, some 2, some 1]⟩,
    ⟨"hours", .int32 #[some 8, some 4, some 6, none]⟩]

private def shiftTable : Table := ⟨shifts.map .typed, [("hours", 2), ("day", 1), ("team", 0)]⟩

/-- A day and the one before it. -/
private def sinceDayBefore : Frame := ⟨.range, .preceding (.int 1), .currentRow⟩

/-- The hours of each team since the day before. -/
private def hoursSinceDayBefore : Expression :=
  ⟨.aggregate .sum "hours", ⟨["team"], [⟨"day", true⟩], some sinceDayBefore⟩, none⟩

/-- The sums move with the shifts, and the two shifts of one day still share theirs. -/
theorem evaluate_reordered_shifts :
    hoursSinceDayBefore.evaluate .standard false shiftTable =
        .ok ⟨"sum", .int32 #[some 14, some 4, some 14, some 0]⟩ ∧
      ∃ t', Table.ofSources ((shifts.map fun c => c.restrict [2, 1, 3, 0]).map .typed) = .ok t' ∧
        hoursSinceDayBefore.evaluate .sequential false t' =
          .ok ⟨"sum", .int32 #[some 14, some 4, some 0, some 14]⟩ := by
  have ht : Table.ofSources (shifts.map .typed) = .ok shiftTable := rfl
  have hout : hoursSinceDayBefore.evaluate .standard false shiftTable =
      .ok ⟨"sum", .int32 #[some 14, some 4, some 14, some 0]⟩ := by
    cbv
  have tallies : hoursSinceDayBefore.function.Tallies shiftTable _ := .aggregate rfl rfl .sum
  refine ⟨hout, ?_⟩
  refine evaluate_reordered ht (by decide) (by decide) ?_ (.inl ⟨_, tallies⟩) .standard .sequential
    hout
  intro o ho
  exact ⟨1, List.mem_singleton.mp ho⟩

end Expression

end WindowQuery
