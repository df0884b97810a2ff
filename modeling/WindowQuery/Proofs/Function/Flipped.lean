import WindowQuery.Proofs.Function.Fill
import WindowQuery.Proofs.Function.Ranking
import WindowQuery.Proofs.Function.Totals
import WindowQuery.Proofs.View.Flipped

/-!
# Functions in the opposite direction

What becomes of the functions that depend on the order of rows when every key sorts the other way
(`Partition.sort_flipped`). A rank counts the rows in front of a group of ties, and in the opposite
direction those behind it (`View.Opposed.exists_places`). Where no two rows tie the view is read
backwards (`View.Backwards`), which numbers rows from the other end and makes `LEAD` of `LAG`.
-/

namespace WindowQuery

/-- A function gives each slot a number over either view, and the two numbers are **related**. -/
def Function.Renumbers (fn : Function) (v v' : View) (f : Frame) (R : Nat → Nat → Nat → Prop) :
    Prop :=
  ∃ c c', fn.compute v f = .ok c ∧ fn.compute v' f = .ok c' ∧
    ∀ slot < v.partition.size, ∃ n n' : Nat, c.cell slot = .int (Int64.ofNat n) ∧
      c'.cell slot = .int (Int64.ofNat n') ∧ R slot n n'

/-- A function over one view and another over a second **agree**: they give the same cells of the
same kind, or both fail. -/
def Function.Agrees (fn fn' : Function) (v v' : View) (f : Frame) : Prop :=
  (∃ c c', fn.compute v f = .ok c ∧ fn'.compute v' f = .ok c' ∧ c'.kind = c.kind ∧
    c'.cells = c.cells) ∨
  (∃ e, fn.compute v f = .error e) ∧ ∃ e, fn'.compute v' f = .error e

namespace View

/-! ### Backwards -/

/-- One view lists the slots of another **backwards**. -/
structure Backwards (v v' : View) : Prop where
  complete : v.Complete
  complete' : v'.Complete
  partition : v'.partition = v.partition
  slots : v'.slots.toList = v.slots.toList.reverse

/-- Positions counted from the other end. -/
theorem rearranges_backwards (size : Nat) : Rearranges size fun q => size - 1 - q where
  lt q hq := by omega
  inj i hi j hj heq := by omega
  onto q hq := ⟨size - 1 - q, by omega, by omega⟩

namespace Backwards

variable {v v' : View} (h : v.Backwards v')
include h

theorem size_eq : v'.size = v.size := by
  rw [h.complete.size_eq, h.complete'.size_eq, h.partition]

theorem slotAt_eq {q : Nat} (hq : q < v.size) : v.slotAt (v.size - 1 - q) = v'.slotAt q := by
  have back : v.size - 1 - q < v.size := by omega
  have read := getElem?_slots (v := v') (q := q) (h.size_eq ▸ hq)
  rw [← Array.getElem?_toList, h.slots, List.getElem?_reverse hq, Array.getElem?_toList] at read
  exact Option.some.inj ((getElem?_slots back).symm.trans read)

/-- The row some places before another is as many places behind it backwards. -/
theorem shiftedCell_eq (s : Source) (default : Cell) (offset : Nat) {q : Nat} (hq : q < v.size) :
    v.shiftedCell s default (before? · offset) (v.size - 1 - q) =
      v'.shiftedCell s default (v'.after? · offset) q := by
  rw [shiftedCell, shiftedCell, before?, after?, h.size_eq]
  by_cases hinside : q + offset < v.size
  · have row : v'.rowAt (q + offset) = v.rowAt (v.size - 1 - q - offset) := by
      rw [rowAt, rowAt, ← h.slotAt_eq hinside, h.partition, Nat.sub_sub _ q offset]
    rw [if_pos hinside, if_pos (by omega)]
    simp only [cellAt, row]
  · rw [if_neg hinside, if_neg (by omega)]

/-- **`LAG` is `LEAD` backwards.** -/
theorem lag_agrees_lead (column : String) (offset : Nat) (default : Cell) (f : Frame) :
    (Function.lag column offset default).Agrees (.lead column offset default) v v' f := by
  have lag : (Function.lag column offset default).compute v f =
      v.partition.table.column column >>= fun s =>
        v.fill "lag" s.kind (v.shiftedCell s default (before? · offset)) :=
    v.shifted_eq "lag" column default (before? · offset)
  have lead : (Function.lead column offset default).compute v' f =
      v.partition.table.column column >>= fun s =>
        v'.fill "lead" s.kind (v'.shiftedCell s default (v'.after? · offset)) := by
    rw [← h.partition]
    exact v'.shifted_eq "lead" column default (v'.after? · offset)
  rw [Function.Agrees, lag, lead]
  cases v.partition.table.column column with
  | error e => exact .inr ⟨⟨e, rfl⟩, e, rfl⟩
  | ok s =>
    -- what one reads at a position the other reads at the mirrored one
    have cells : ∀ q < v.size, v.shiftedCell s default (before? · offset) (v.size - 1 - q) =
        v'.shiftedCell s default (v'.after? · offset) q :=
      fun q hq => h.shiftedCell_eq s default offset hq
    have π := rearranges_backwards v.size
    have either : (∃ c, v.fill "lag" s.kind (v.shiftedCell s default (before? · offset)) = .ok c) ↔
        ∃ c, v'.fill "lead" s.kind (v'.shiftedCell s default (v'.after? · offset)) = .ok c :=
      exists_fill_iff_of_slots h.complete h.complete' h.partition π cells
    -- a default of another kind fits neither column or is asked for in neither
    by_cases filled : ∃ c, v.fill "lag" s.kind (v.shiftedCell s default (before? · offset)) = .ok c
    · obtain ⟨c', hc'⟩ := either.mp filled
      obtain ⟨c, hc⟩ := filled
      have segment := isSegment_fill hc
      have segment' := isSegment_fill hc'
      have size : c'.size = c.size := segment'.size_eq.trans (h.size_eq.trans segment.size_eq.symm)
      refine .inl ⟨c, c', hc, hc', segment'.kind_eq.trans segment.kind_eq.symm, ?_⟩
      rw [Column.cells, Column.cells, size]
      refine List.map_congr_left fun slot hslot => ?_
      rw [List.mem_range, segment.size_eq, h.complete.size_eq] at hslot
      exact (cell_fill_eq_of_slots h.complete h.complete' h.partition π cells
        (fun q hq => h.slotAt_eq hq) hc hc' hslot).symm
    · exact .inr ⟨exists_error_iff.mpr filled, exists_error_iff.mpr (either.not.mp filled)⟩

/-- Rows are numbered from the other end. -/
theorem rowNumber_renumbers (f : Frame) :
    Function.rowNumber.Renumbers v v' f fun _ n n' => (n' : Int) = v.size + 1 - n := by
  obtain ⟨c, hc, numbered⟩ := h.complete.exists_rowNumber f
  obtain ⟨c', hc', numbered'⟩ := h.complete'.exists_rowNumber f
  refine ⟨c, c', hc, hc', fun slot hslot => ?_⟩
  rw [← h.partition] at hslot
  obtain ⟨q, hq, rfl⟩ := h.complete'.exists_slotAt_eq hslot
  have hq' : q < v.size := by rwa [← h.size_eq]
  refine ⟨v.size - 1 - q + 1, q + 1, ?_, numbered' q hq, by omega⟩
  rw [← h.slotAt_eq hq']
  exact numbered _ (by omega)

end Backwards

/-! ### Groups from the other end -/

namespace Opposed

variable {v v' : View} {sources : List Source} (h : v.Opposed v' sources)
include h

/-- What a ranking says of a slot in both directions: the group of the slot is counted from the
other end, and stops as far from the start as it starts from the end. -/
theorem exists_places (r : Ranking) {slot : Nat} (hslot : slot < v.partition.size) :
    ∃ g g' : Nat, ∃ place place' : Span,
      (r.storageOf v).cell slot = r.cellOf v.size g place ∧
      (r.storageOf v').cell slot = r.cellOf v.size g' place' ∧
      g + g' + 1 = v.tieGroups.length ∧ place'.start + place.stop = v.size ∧
      ∀ group ∈ v.tieGroups, slot ∈ group → place.start + group.length = place.stop := by
  obtain ⟨p, hp, rfl⟩ := h.sorted.complete.exists_slotAt_eq hslot
  obtain ⟨π, reversal⟩ := h.exists_reversal
  obtain ⟨q, hq, rfl⟩ := reversal.rearranges.onto p hp
  have hq' : q < v'.size := by rwa [h.size_eq]
  have index := reversal.indexOf q hq
  have start := reversal.startOf (v'.ties.indexOf q) (by omega)
  refine ⟨v.ties.indexOf (π q), v'.ties.indexOf q, v.ties.spanAt (π q), v'.ties.spanAt q,
    r.cell_storageOf h.sorted.complete hp, ?_, ?_, ?_, fun group hgroup hmem => ?_⟩
  · rw [reversal.slotAt q hq, r.cell_storageOf h.sorted'.complete hq', h.size_eq]
  · rw [tieGroups, List.length_map, List.length_range]
    omega
  · -- counted from the end, the next group starts where this one stops
    have last : v.ties.count - v'.ties.indexOf q = v.ties.indexOf (π q) + 1 := by omega
    rwa [last] at start
  · obtain ⟨g, -, rfl⟩ := List.mem_map.mp hgroup
    have mono : (v.ties.span g).start ≤ (v.ties.span g).stop := by
      rw [h.sorted.ties_eq]
      exact Runs.startOf_mono _ _ (Nat.le_succ g)
    rw [Runs.spanAt, (h.sorted.mem_tieGroup_slotAt_iff hp).mp hmem, tieGroup, List.length_map,
      Span.positions, List.length_range', Span.size]
    omega

/-- Ranks count from behind the group of a row. -/
theorem rank_renumbers (f : Frame) : (Function.ranking .rank).Renumbers v v' f fun slot n n' =>
    ∀ group ∈ v.tieGroups, slot ∈ group → (n' : Int) = v.size + 2 - n - group.length := by
  refine ⟨_, _, rfl, rfl, fun slot hslot => ?_⟩
  obtain ⟨g, g', place, place', hcell, hcell', -, reversed, length⟩ := h.exists_places .rank hslot
  refine ⟨place.start + 1, place'.start + 1, hcell, hcell', fun group hgroup hmem => ?_⟩
  have := length group hgroup hmem
  omega

theorem denseRank_renumbers (f : Frame) : (Function.ranking .denseRank).Renumbers v v' f
    fun _ n n' => (n' : Int) = v.tieGroups.length + 1 - n := by
  refine ⟨_, _, rfl, rfl, fun slot hslot => ?_⟩
  obtain ⟨g, g', place, place', hcell, hcell', count, -⟩ := h.exists_places .denseRank hslot
  exact ⟨g + 1, g' + 1, hcell, hcell', by omega⟩

end Opposed

end View

/-- Views by the keys and by the flipped keys are opposed. -/
theorem Partition.exists_sort_opposed {p : Partition} {sortKeys : List SortKey}
    (hkeys : sortKeys ≠ []) (h : p.table.Orders sortKeys) (threshold threshold' : Nat) :
    ∃ v v' sources, p.sort sortKeys threshold = .ok v ∧
      p.sort (sortKeys.map SortKey.flip) threshold' = .ok v' ∧ v.partition = p ∧
      v.sortKeys = sortKeys ∧ v.Opposed v' sources := by
  obtain ⟨sources, hsources, orders⟩ := h.exists_columnsOf
  have flipped : p.table.columnsOf ((sortKeys.map SortKey.flip).map SortKey.column) =
      .ok sources := by
    rw [List.map_map]
    exact hsources
  have hkeys' : sortKeys.map SortKey.flip ≠ [] := by simpa using hkeys
  obtain ⟨v, hv, hpartition, hsort, sorted⟩ := p.exists_sort hkeys hsources threshold
  obtain ⟨v', hv', hpartition', hsort', sorted'⟩ := p.exists_sort hkeys' flipped threshold'
  exact ⟨v, v', sources, hv, hv', hpartition, hsort, hpartition'.trans hpartition.symm,
    hsort'.trans (congrArg _ hsort.symm), sorted, sorted', orders⟩

/-- **Flipping every direction reverses the groups of ties**, each of which keeps its order of
arrival. Ranks are then counted from behind the group, and dense ranks from the last group. Where no
two rows tie, rows are numbered from the last one, and `LAG` becomes `LEAD`. -/
theorem Partition.sort_flipped {p : Partition} {sortKeys : List SortKey} (hkeys : sortKeys ≠ [])
    (h : p.table.Orders sortKeys) (threshold threshold' : Nat) :
    ∃ v v', p.sort sortKeys threshold = .ok v ∧
      p.sort (sortKeys.map SortKey.flip) threshold' = .ok v' ∧
      v.partition = p ∧ v.sortKeys = sortKeys ∧ v.GroupsTies ∧ v'.GroupsTies ∧
      v'.tieGroups = v.tieGroups.reverse ∧
      (∀ f, (Function.ranking .rank).Renumbers v v' f fun slot n n' =>
        ∀ group ∈ v.tieGroups, slot ∈ group → (n' : Int) = p.size + 2 - n - group.length) ∧
      (∀ f, (Function.ranking .denseRank).Renumbers v v' f fun _ n n' =>
        (n' : Int) = v.tieGroups.length + 1 - n) ∧
      ((∀ a < p.size, ∀ b < p.size, a ≠ b →
          ¬ p.table.Ties sortKeys (p.rowOfSlot a) (p.rowOfSlot b)) →
        (∀ f, Function.rowNumber.Renumbers v v' f fun _ n n' => (n' : Int) = p.size + 1 - n) ∧
        ∀ column offset default f,
          (Function.lag column offset default).Agrees (.lead column offset default) v v' f) := by
  obtain ⟨v, v', sources, hv, hv', rfl, rfl, opposed⟩ :=
    exists_sort_opposed hkeys h threshold threshold'
  have size : v.size = v.partition.size := opposed.sorted.complete.size_eq
  rw [← size]
  refine ⟨v, v', hv, hv', rfl, rfl, opposed.sorted.groupsTies opposed.orders,
    opposed.sorted'.groupsTies opposed.orders, opposed.tieGroups_eq, opposed.rank_renumbers,
    opposed.denseRank_renumbers, fun distinct => ?_⟩
  rw [size] at distinct
  -- without ties the groups are single slots, so their reversal is that of the slots
  have backwards : v.Backwards v' :=
    ⟨opposed.sorted.complete, opposed.sorted'.complete, opposed.partition,
      opposed.slots_eq distinct⟩
  exact ⟨backwards.rowNumber_renumbers, backwards.lag_agrees_lead⟩

/-- Laps of swimmers, one of them not timed, and the lanes they swam in. -/
private def laps : Column := ⟨"lap", .int64 #[some 31, none, some 29, some 31]⟩

/-- No two swimmers share a lane. -/
private def lanes : Column := ⟨"lane", .int64 #[some 2, some 5, some 4, some 3]⟩

private def swimmers : Partition :=
  ⟨⟨[.typed laps, .typed lanes], [("lap", 0), ("lane", 1)]⟩, #[0, 1, 2, 3]⟩

/-- By lap alone, the two swimmers that tie stay in order while their group moves to the front. By
lap and lane, no two tie. -/
theorem Partition.sort_flipped_swimmers :
    (∃ v v', swimmers.sort [⟨"lap", true⟩] 2 = .ok v ∧ swimmers.sort [⟨"lap", false⟩] 9 = .ok v' ∧
      v.tieGroups = [[1], [2], [0, 3]] ∧ v'.tieGroups = [[0, 3], [2], [1]]) ∧
    ∃ v v', swimmers.sort [⟨"lap", true⟩, ⟨"lane", false⟩] 2 = .ok v ∧
      swimmers.sort [⟨"lap", false⟩, ⟨"lane", true⟩] 9 = .ok v' ∧
      ∀ f, (Function.lag "lane" 2 .null).Agrees (.lead "lane" 2 .null) v v' f := by
  have lap : ∀ direction, swimmers.table.Orders [⟨"lap", direction⟩] := fun _ =>
    List.forall_mem_cons.mpr ⟨⟨_, rfl, Source.ordersCells_typed laps⟩, by simp⟩
  have lapAndLane : swimmers.table.Orders [⟨"lap", true⟩, ⟨"lane", false⟩] :=
    List.forall_mem_cons.mpr ⟨⟨_, rfl, Source.ordersCells_typed laps⟩,
      List.forall_mem_cons.mpr ⟨⟨_, rfl, Source.ordersCells_typed lanes⟩, by simp⟩⟩
  have distinct : ∀ a < 4, ∀ b < 4, a ≠ b → ¬ swimmers.table.Ties
      [⟨"lap", true⟩, ⟨"lane", false⟩] (swimmers.rowOfSlot a) (swimmers.rowOfSlot b) := by
    unfold Table.Ties
    decide
  constructor
  · obtain ⟨v, v', hv, hv', -, -, -, -, reversed, -⟩ := sort_flipped (by simp) (lap true) 2 9
    have groups : (swimmers.sort [⟨"lap", true⟩] 2).map View.tieGroups =
        .ok [[1], [2], [0, 3]] := by cbv
    rw [hv] at groups
    have listed : v.tieGroups = [[1], [2], [0, 3]] := Except.ok.inj groups
    exact ⟨v, v', hv, hv', listed, by rw [reversed, listed]; rfl⟩
  · obtain ⟨v, v', hv, hv', -, -, -, -, -, -, -, apart⟩ := sort_flipped (by simp) lapAndLane 2 9
    exact ⟨v, v', hv, hv', (apart distinct).2 "lane" 2 .null⟩

end WindowQuery
