import Mathlib.Data.List.Sort
import WindowQuery.Proofs.View.Arrival
import WindowQuery.Proofs.View.Numbering

/-!
# Runs by counting

On a sequence in order a run can be found by counting, without any regard to where its positions
are: its start is the number of positions that come before it, and its own number is the number of
runs among these, one for each position that starts a run (`Runs.InOrder.indexOf_eq_countP`).

A view that sorts rows in table order, or keeps them as they arrive, **ranks** its rows
(`View.RanksRows`). The places of runs and positions in it are therefore counts of rows
(`Table.standing`), in which neither positions nor the sort occur.
-/

namespace WindowQuery

/-! ### Counting -/

/-- What passes one of two tests that exclude each other is counted by either. -/
theorem countP_eq_add {α : Type} {xs : List α} {test left right : α → Bool}
    (either : ∀ x ∈ xs, test x = (left x || right x))
    (apart : ∀ x ∈ xs, left x = true → right x = false) :
    xs.countP test = xs.countP left + xs.countP right := by
  induction xs with
  | nil => rfl
  | cons x xs ih =>
    obtain ⟨here, either⟩ := List.forall_mem_cons.mp either
    obtain ⟨here', apart⟩ := List.forall_mem_cons.mp apart
    rw [List.countP_cons, List.countP_cons, List.countP_cons, ih either apart, here]
    cases hleft : left x with
    | false =>
      simp only [Bool.false_or, Bool.false_eq_true, if_false]
      omega
    | true =>
      simp only [here' hleft, Bool.true_or, Bool.false_eq_true, if_true, if_false]
      omega

theorem filter_lt_range {s size : Nat} (hs : s ≤ size) :
    (List.range size).filter (fun q => decide (q < s)) = List.range s := by
  refine List.Pairwise.eq_of_mem_iff (List.Pairwise.filter _ List.pairwise_lt_range)
    List.pairwise_lt_range fun q => ?_
  rw [List.mem_filter, List.mem_range, List.mem_range, decide_eq_true_eq]
  omega

/-- As many numbers are below a number as it says. -/
theorem countP_lt_range {s size : Nat} (hs : s ≤ size) :
    (List.range size).countP (fun q => decide (q < s)) = s := by
  rw [List.countP_eq_length_filter, filter_lt_range hs, List.length_range]

namespace Runs

/-! ### Runs -/

/-- The runs that start below the run of a position are those before it. -/
theorem startsBelow_startOf {size : Nat} {same : Nat → Nat → Bool} {p : Nat} (hp : p < size) :
    startsBelow same ((ofSame size same).startOf ((ofSame size same).indexOf p)) =
      (ofSame size same).indexOf p := by
  have starts (run : Nat) {q : Nat} (hq : q < size) := startOf_le_iff same run hq
  generalize hg : (ofSame size same).indexOf p = g at *
  have le : (ofSame size same).startOf g ≤ p := (starts g hp).mpr (Nat.le_of_eq hg.symm)
  have last : ¬ (ofSame size same).startOf (g + 1) ≤ p := fun h =>
    absurd ((starts (g + 1) hp).mp h) (by omega)
  generalize hs : (ofSame size same).startOf g = s at *
  -- the first position of the run has its number, and the position in front has a lower one
  have own : (ofSame size same).indexOf s = g := by
    have low := (starts g (Nat.lt_of_le_of_lt le hp)).mp (Nat.le_of_eq hs)
    have high := (starts (g + 1) (Nat.lt_of_le_of_lt le hp)).not.mp (by omega)
    omega
  rw [indexOf_ofSame (Nat.lt_of_le_of_lt le hp), startsBelow_succ] at own
  cases s with
  | zero =>
    have none : startsBelow same 0 = 0 := rfl
    split at own <;> omega
  | succ s =>
    have lower := (starts g (q := s) (by omega)).not.mp (by omega)
    rw [indexOf_ofSame (by omega)] at lower
    have pos := startsBelow_pos same s
    split at own <;> omega

theorem numberFrom_replicate_false (seen n : Nat) :
    numberFrom seen (List.replicate n false) = List.replicate n (seen - 1) := by
  induction n with
  | zero => rfl
  | succ n ih =>
    rw [List.replicate_succ, numberFrom, List.replicate_succ]
    exact congrArg _ ih

/-- Where all positions are level there is one run. -/
theorem single_eq_ofSame (size : Nat) : single size = ofSame size (level fun _ _ => .eq) := by
  cases size with
  | zero => rfl
  | succ n =>
    have later : (List.range n).map (startsAt (level fun _ _ => .eq) ∘ Nat.succ) =
        List.replicate n false :=
      List.eq_replicate_iff.mpr ⟨by simp, fun start hstart => by
        obtain ⟨q, -, rfl⟩ := List.mem_map.mp hstart
        exact (startsAt_succ _ q).mpr rfl⟩
    have starts : (List.range (n + 1)).map (startsAt (level fun _ _ => .eq)) =
        true :: List.replicate n false := by
      rw [List.range_succ_eq_map, List.map_cons, List.map_map, later]
      rfl
    have first : (List.range (n + 1)).filter (startsAt (level fun _ _ => .eq)) = [0] := by
      rw [List.range_succ_eq_map, List.filter_cons_of_pos rfl, List.filter_map,
        List.filter_eq_nil_iff.mpr, List.map_nil]
      intro q _
      exact Bool.eq_false_iff.mp ((startsAt_succ _ q).mpr rfl)
    rw [single, ofSame, starts, first, numberFrom, if_neg (Nat.succ_ne_zero n)]
    simp only [if_true, numberFrom_replicate_false]
    rw [← List.toArray_replicate, List.replicate_succ]

namespace InOrder

variable {size : Nat} {order : Nat → Nat → Ordering} (h : InOrder size order) {p q : Nat}
include h

theorem indexOf_lt_iff (hq : q < size) (hp : p < size) :
    (ofSame size (level order)).indexOf q < (ofSame size (level order)).indexOf p ↔
      order q p = .lt := by
  rw [← Nat.not_le, h.indexOf_le_iff hp hq, ← h.swap q p]
  cases order q p <;> simp

/-- A position starts a run when it is level with no earlier one. -/
theorem startsAt_iff (hq : q < size) :
    startsAt (level order) q = true ↔ ∀ i < q, order i q ≠ .eq := by
  cases q with
  | zero => exact iff_of_true rfl fun i hi => absurd hi (Nat.not_lt_zero i)
  | succ q =>
    rw [← Bool.not_eq_false, startsAt_succ]
    constructor
    · intro hstart i hi hlevel
      -- what is level with an earlier position is level with all positions between
      have hq' : q < size := Nat.lt_of_succ_lt hq
      have hi' : i < size := Nat.lt_trans hi hq
      have back := (h.eq_iff_isLE (Nat.le_of_lt hi) hq).mp hlevel
      have between := h.le i q (Nat.le_of_lt_succ hi) hq'
      exact hstart ((h.eq_iff_isLE (Nat.le_succ q) hq).mpr (h.trans _ _ _ hq hi' hq' back between))
    · intro hnone
      exact hnone q (Nat.lt_succ_self q)

section

variable (hp : p < size)
include hp

/-- A run starts behind the positions that come before it. -/
theorem start_spanAt_eq_countP : ((ofSame size (level order)).spanAt p).start =
    (List.range size).countP fun q => order q p == .lt := by
  refine (startOf_eq_countP _ _ _).trans (List.countP_congr fun q hq => ?_)
  rw [decide_eq_true_eq, beq_iff_eq, h.indexOf_lt_iff (List.mem_range.mp hq) hp]

/-- A run stops behind the positions that do not come after it. -/
theorem stop_spanAt_eq_countP : ((ofSame size (level order)).spanAt p).stop =
    (List.range size).countP fun q => (order q p).isLE := by
  refine (startOf_eq_countP _ _ _).trans (List.countP_congr fun q hq => ?_)
  rw [decide_eq_true_eq, Nat.lt_succ_iff, h.indexOf_le_iff (List.mem_range.mp hq) hp]

/-- **The number of a run** is the number of runs that come before it. -/
theorem indexOf_eq_countP : (ofSame size (level order)).indexOf p =
    (List.range size).countP fun q => order q p == .lt && startsAt (level order) q := by
  have hle := startOf_le size (level order) ((ofSame size (level order)).indexOf p)
  rw [← startsBelow_startOf hp, startsBelow, ← filter_lt_range hle, List.countP_filter]
  refine List.countP_congr fun q hq => ?_
  have before := startOf_le_iff (level order) ((ofSame size (level order)).indexOf p)
    (List.mem_range.mp hq)
  rw [Bool.and_eq_true, Bool.and_eq_true, decide_eq_true_eq, beq_iff_eq,
    ← h.indexOf_lt_iff (List.mem_range.mp hq) hp, ← Nat.not_le, before, Nat.not_le, and_comm]

end

end InOrder

end Runs

/-! ### Standings -/

/-- Where a row **stands** among rows. -/
structure Standing where
  /-- The number of rows. -/
  rows : Nat
  /-- How many rows come before it. -/
  before : Nat
  /-- How many different keys these rows have. -/
  keysBefore : Nat
  /-- How many rows tie with it, itself included. -/
  ties : Nat
  /-- How many of these are earlier rows of the table. -/
  tiesBefore : Nat

/-- Rows that come before a row, or tie with it and are earlier in the table. -/
def Standing.place (s : Standing) : Nat := s.before + s.tiesBefore

namespace Table

/-- Whether a row is the first one among rows to have its keys: no earlier one ties with it. -/
def leads (t : Table) (sortKeys : List SortKey) (rows : List Nat) (r : Nat) : Bool :=
  rows.all fun r' => decide (r ≤ r') || t.rowOrder sortKeys r' r != .eq

/-- The **standing** of a row among rows. Different keys are counted by the rows that lead. -/
def standing (t : Table) (sortKeys : List SortKey) (rows : List Nat) (r : Nat) : Standing where
  rows := rows.length
  before := rows.countP fun r' => t.rowOrder sortKeys r' r == .lt
  keysBefore := rows.countP fun r' =>
    t.rowOrder sortKeys r' r == .lt && t.leads sortKeys rows r'
  ties := rows.countP fun r' => t.rowOrder sortKeys r' r == .eq
  tiesBefore := rows.countP fun r' => t.rowOrder sortKeys r' r == .eq && decide (r' < r)

theorem leads_iff {t : Table} {sortKeys : List SortKey} {rows : List Nat} {r : Nat} :
    t.leads sortKeys rows r = true ↔ ∀ r' ∈ rows, r' < r → t.rowOrder sortKeys r' r ≠ .eq := by
  simp only [leads, List.all_eq_true, Bool.or_eq_true, decide_eq_true_eq, bne_iff_ne, ← Nat.not_lt,
    ← imp_iff_not_or]

end Table

namespace View

/-- The rows of a complete view are those of its partition, in another order. -/
theorem Complete.map_rowAt_perm {v : View} (h : v.Complete) :
    ((List.range v.size).map v.rowAt).Perm v.partition.rows.toList := by
  have perm := List.Perm.map v.partition.rowOfSlot h
  rwa [← v.map_slotAt_range, v.partition.map_rowOfSlot_range, List.map_map] at perm

/-- A view **ranks its rows**: its positions are in the order of their rows, rows that tie in table
order, and its ties are the runs of rows that tie. -/
structure RanksRows (v : View) : Prop where
  complete : v.Complete
  order : ∀ i < v.size, ∀ j < v.size,
    v.tieOrder i j = v.partition.table.rowOrder v.sortKeys (v.rowAt i) (v.rowAt j)
  inOrder : Runs.InOrder v.size v.tieOrder
  ties : v.ties = Runs.ofSame v.size (Runs.level v.tieOrder)
  le_iff : ∀ i < v.size, ∀ j < v.size,
    i ≤ j ↔ v.tieOrder i j = .lt ∨ v.tieOrder i j = .eq ∧ v.rowAt i ≤ v.rowAt j

/-- The standing of the row at a position among the rows of the partition. -/
def standingAt (v : View) (p : Nat) : Standing :=
  v.partition.table.standing v.sortKeys v.partition.rows.toList (v.rowAt p)

namespace RanksRows

variable {v : View} (h : v.RanksRows) {p : Nat} (hp : p < v.size)
include h

/-- Rows are counted along positions. -/
theorem countP_rows (test : Nat → Bool) : v.partition.rows.toList.countP test =
    (List.range v.size).countP fun q => test (v.rowAt q) := by
  rw [← h.complete.map_rowAt_perm.countP_eq, List.countP_map]
  rfl

include hp

/-- A row leads when its position starts a run. -/
theorem leads_iff_startsAt :
    v.partition.table.leads v.sortKeys v.partition.rows.toList (v.rowAt p) = true ↔
      Runs.startsAt (Runs.level v.tieOrder) p = true := by
  rw [Table.leads_iff, h.inOrder.startsAt_iff hp]
  have member (r : Nat) : r ∈ v.partition.rows.toList ↔ ∃ q < v.size, v.rowAt q = r := by
    rw [← h.complete.map_rowAt_perm.mem_iff, List.mem_map]
    simp only [List.mem_range]
  simp only [member, forall_exists_index, and_imp, forall_apply_eq_imp_iff₂]
  -- of two rows that tie the earlier one has the earlier position
  constructor
  · intro hnone i hi hlevel
    have hi' := Nat.lt_trans hi hp
    have after := (h.le_iff p hp i hi').not.mp (Nat.not_le.mpr hi)
    have swapped : v.tieOrder p i = .eq := by
      rw [← v.tieOrder_swap i p, hlevel]
      rfl
    have earlier : v.rowAt i < v.rowAt p :=
      Nat.not_le.mp fun hle => after (.inr ⟨swapped, hle⟩)
    exact hnone i hi' earlier (by rwa [← h.order i hi' p hp])
  · intro hnone q hq hrow hlevel
    rw [← h.order q hq p hp] at hlevel
    have before := (h.le_iff q hq p hp).mpr (.inr ⟨hlevel, Nat.le_of_lt hrow⟩)
    rcases Nat.lt_or_eq_of_le before with hlt | rfl
    · exact hnone q hlt hlevel
    · exact Nat.lt_irrefl _ hrow

omit hp in
theorem standingAt_rows : (v.standingAt p).rows = v.size := h.complete.size_eq.symm

theorem standingAt_before : (v.standingAt p).before = (v.ties.spanAt p).start := by
  rw [h.ties, h.inOrder.start_spanAt_eq_countP hp]
  refine (h.countP_rows _).trans (List.countP_congr fun q hq => ?_)
  rw [h.order q (List.mem_range.mp hq) p hp]

theorem standingAt_keysBefore : (v.standingAt p).keysBefore = v.ties.indexOf p := by
  rw [h.ties, h.inOrder.indexOf_eq_countP hp]
  refine (h.countP_rows _).trans (List.countP_congr fun q hq => ?_)
  rw [Bool.and_eq_true, Bool.and_eq_true, h.leads_iff_startsAt (List.mem_range.mp hq),
    h.order q (List.mem_range.mp hq) p hp]

/-- Behind the rows that come before a row stand those that tie with it. -/
theorem standingAt_ties : (v.standingAt p).before + (v.standingAt p).ties =
    (v.ties.spanAt p).stop := by
  have before : (v.standingAt p).before = _ := h.countP_rows _
  have ties : (v.standingAt p).ties = _ := h.countP_rows _
  rw [h.ties, h.inOrder.stop_spanAt_eq_countP hp, before, ties]
  refine (countP_eq_add (fun q hq => ?_) fun q _ => ?_).symm
  · rw [h.order q (List.mem_range.mp hq) p hp]
    cases v.partition.table.rowOrder v.sortKeys (v.rowAt q) (v.rowAt p) <;> rfl
  · cases v.partition.table.rowOrder v.sortKeys (v.rowAt q) (v.rowAt p) <;> simp

/-- **The position of a row** is its place. -/
theorem standingAt_place : (v.standingAt p).place = p := by
  have before : (v.standingAt p).before = _ := h.countP_rows _
  have ties : (v.standingAt p).tiesBefore = _ := h.countP_rows _
  rw [Standing.place, before, ties]
  refine (countP_eq_add (fun q hq => ?_) fun q _ => ?_).symm.trans
    (countP_lt_range (Nat.le_of_lt hp))
  · -- a position comes before another unless that one stands at it or before it
    have hq' := List.mem_range.mp hq
    have after := h.le_iff p hp q hq'
    rw [← v.tieOrder_swap q p] at after
    rw [← h.order q hq' p hp, Bool.eq_iff_iff, decide_eq_true_eq, ← Nat.not_le, after]
    cases v.tieOrder q p <;> simp
  · cases v.partition.table.rowOrder v.sortKeys (v.rowAt q) (v.rowAt p) <;> simp

end RanksRows

end View

/-- In order of arrival all rows tie. -/
theorem View.ranksRows_arrivalView {p : Partition} (hrows : p.rows.toList.Pairwise (· < ·)) :
    p.arrivalView.RanksRows where
  complete := complete_arrivalView p
  order _ _ _ _ := rfl
  inOrder := ⟨fun _ _ => rfl, fun _ _ _ _ _ _ _ _ => rfl, fun _ _ _ _ => rfl⟩
  ties := by
    have size : p.arrivalView.size = p.size := Array.size_range
    rw [size]
    exact Runs.single_eq_ofSame p.size
  le_iff i hi j hj := by
    have size : p.arrivalView.size = p.size := Array.size_range
    have row {q : Nat} (hq : q < p.arrivalView.size) :
        p.arrivalView.rowAt q = p.rowOfSlot q := by
      have slot : p.arrivalView.slotAt q = q := by
        have hq' : q < p.size := by rwa [← size]
        simp [slotAt, Partition.arrivalView, hq']
      rw [rowAt, slot]
      rfl
    -- positions are slots, and the rows at the slots ascend
    rw [row hi, row hj]
    have ties : p.arrivalView.tieOrder i j = .eq := rfl
    simp only [ties, reduceCtorEq, true_and, false_or]
    rw [size] at hi hj
    constructor
    · intro hij
      rcases Nat.lt_or_eq_of_le hij with hlt | rfl
      · exact Nat.le_of_lt (Partition.rowOfSlot_lt hrows hlt hj)
      · exact Nat.le_refl _
    · intro hle
      refine Nat.not_lt.mp fun hlt => ?_
      exact Nat.not_lt.mpr hle (Partition.rowOfSlot_lt hrows hlt hi)

/-- **Every view of rows in table order ranks them**, sorted or not. -/
theorem Partition.exists_sort_ranksRows {p : Partition} {sortKeys : List SortKey}
    {sources : List Source}
    (hsources : p.table.columnsOf (sortKeys.map SortKey.column) = .ok sources)
    (orders : ∀ s ∈ sources, s.OrdersRows) (hrows : p.rows.toList.Pairwise (· < ·))
    (threshold : Nat) :
    ∃ v, p.sort sortKeys threshold = .ok v ∧ v.partition = p ∧ v.sortKeys = sortKeys ∧
      v.RanksRows := by
  cases hkeys : sortKeys with
  | nil => exact ⟨p.arrivalView, rfl, rfl, rfl, View.ranksRows_arrivalView hrows⟩
  | cons key keys =>
    rw [← hkeys]
    obtain ⟨v, hsort, hpartition, hv, h⟩ :=
      p.exists_sort (by rw [hkeys]; exact List.cons_ne_nil key keys) hsources threshold
    rw [← hpartition] at hrows
    exact ⟨v, hsort, hpartition, hv, h.complete, fun i hi j hj => h.tieOrder_eq_rowOrder hi hj,
      h.inOrder_tieOrder orders, h.ties_eq, fun i hi j hj => h.le_iff_row orders hrows hi hj⟩

end WindowQuery
