import Mathlib
import WindowQuery.Proofs.View.Counting
import WindowQuery.View.Search

/-!
# Where a search ends

Every look of a bisection halves what is left (`length_probes_le`), so it ends, and whatever the
test is, it ends where the test turns. A test that holds on an initial stretch only turns once, and
the bisection counts the positions where it holds (`bisect_eq_countP`).

Comparison with a target is such a test in a view that has its positions in the order of their first
keys, as long as it is a total preorder of these keys and the target (`View.initial_lt`,
`View.initial_ne_gt`). The two ends of a RANGE frame are then counts of positions
(`View.search_outcome`).
-/

namespace WindowQuery

/-! ### Bisection -/

/-- A test of the positions below `size` holds on an **initial** stretch only. -/
def Initial (before : Nat → Bool) (size : Nat) : Prop :=
  ∀ i j, i ≤ j → j < size → before j = true → before i = true

/-- The positions that a bisection **probes**, in this order. -/
def probes (before : Nat → Bool) (low high : Nat) : List Nat :=
  if low < high then
    let middle := low + (high - low) / 2
    middle :: if before middle then probes before (middle + 1) high else probes before low middle
  else []
termination_by high - low

section

variable {before : Nat → Bool} {low high size p : Nat}

/-- Only positions between the ends are probed. -/
theorem mem_probes (h : p ∈ probes before low high) : low ≤ p ∧ p < high := by
  fun_induction probes before low high with
  | case1 low high hlt middle ihAbove ihBelow =>
    rcases List.mem_cons.mp h with rfl | hrest
    · omega
    · split at hrest
      · have := ihAbove hrest
        omega
      · have := ihBelow hrest
        omega
  | case2 => cases h

/-- **Every probe halves what is left**, so there are no more of them than the number of positions
has binary digits. -/
theorem length_probes_le {k : Nat} (h : high - low < 2 ^ k) :
    (probes before low high).length ≤ k := by
  induction k generalizing low high with
  | zero =>
    rw [probes, if_neg (by omega)]
    exact Nat.le_refl _
  | succ k ih =>
    rw [Nat.pow_succ] at h
    rw [probes]
    split
    case isFalse => exact Nat.zero_le _
    case isTrue hlt =>
      rw [List.length_cons, Nat.add_le_add_iff_right]
      split
      · exact ih (by omega)
      · exact ih (by omega)

/-- A test that holds on an initial stretch holds exactly below the boundary. -/
theorem lt_bisect_iff (initial : Initial before size) (hp : p < size) :
    p < bisect before 0 size ↔ before p = true := by
  have bounds := @le_bisect before 0 size (Nat.zero_le size)
  constructor
  · intro h
    have below : before (bisect before 0 size - 1) = true := before_bisect_pred (by omega)
    exact initial p _ (by omega) (by omega) below
  · intro h
    by_contra hle
    have fails : before (bisect before 0 size) = false := not_before_bisect (by omega)
    have holds := initial (bisect before 0 size) p (by omega) hp h
    rw [fails] at holds
    exact Bool.false_ne_true holds

/-- The boundary is the number of positions where it holds. -/
theorem bisect_eq_countP (initial : Initial before size) :
    bisect before 0 size = (List.range size).countP before := by
  rw [← countP_lt_range (le_bisect (Nat.zero_le size)).2]
  refine List.countP_congr fun p hp => ?_
  rw [decide_eq_true_eq]
  exact lt_bisect_iff initial (List.mem_range.mp hp)

/-- The boundary is the length of the stretch. -/
theorem bisect_eq_of_stretch (hp : p ≤ size) (stretch : ∀ q < size, before q = true ↔ q < p) :
    bisect before 0 size = p := by
  have initial : Initial before size := fun i j hij hj hbefore =>
    (stretch i (by omega)).mpr (Nat.lt_of_le_of_lt hij ((stretch j hj).mp hbefore))
  calc bisect before 0 size = (List.range size).countP before := bisect_eq_countP initial
    _ = (List.range size).countP fun q => decide (q < p) := by
      refine List.countP_congr fun q hq => ?_
      rw [decide_eq_true_eq]
      exact stretch q (List.mem_range.mp hq)
    _ = p := countP_lt_range hp

end

namespace View

/-- A bisection that notes what it reads finds the boundary and notes its probes. -/
theorem run_bisectM_note (v : View) (before : Cell → Bool) (low high : Nat) (notes : List Nat) :
    (bisectM (fun p => before <$> v.note p) low high).run notes =
      (bisect (fun p => before (v.orderValueAt p)) low high,
        notes ++ probes (fun p => before (v.orderValueAt p)) low high) := by
  have look (p : Nat) (notes : List Nat) :
      (before <$> v.note p).run notes = pure (before (v.orderValueAt p), notes ++ [p]) := rfl
  fun_induction bisect (fun p => before (v.orderValueAt p)) low high generalizing notes with
  | case1 low high hlt middle hbefore ih =>
    rw [bisectM, probes, if_pos hlt, if_pos hlt]
    simp only [StateT.run_bind, look, pure_bind]
    rw [if_pos hbefore, if_pos hbefore, ih, List.append_assoc]
    rfl
  | case2 low high hlt middle hbefore ih =>
    rw [bisectM, probes, if_pos hlt, if_pos hlt]
    simp only [StateT.run_bind, look, pure_bind]
    rw [if_neg hbefore, if_neg hbefore, ih, List.append_assoc]
    rfl
  | case3 low high hge =>
    rw [bisectM, probes, if_neg hge, if_neg hge, List.append_nil]
    rfl

theorem notedSearch_eq (v : View) (before : Cell → Bool) :
    v.notedSearch before =
      (v.search before, probes (fun p => before (v.orderValueAt p)) 0 v.size) :=
  v.run_bisectM_note before 0 v.size []

/-! ### Views in order -/

theorem order_ne_lt_iff (v : View) (a b : Cell) :
    v.order a b ≠ .lt ↔ (v.order b a).isLE = true := by
  rw [← v.order_swap a b]
  cases v.order a b <;> simp

theorem order_ne_gt_iff (v : View) (a b : Cell) :
    v.order a b ≠ .gt ↔ (v.order a b).isLE = true := by
  cases v.order a b <;> simp

/-- Positions are in the order of their first keys, when comparison is a total preorder of those.
Without keys all positions are level. -/
theorem inOrder_of_sort {p : Partition} {sortKeys : List SortKey} {threshold : Nat} {v : View}
    (hsort : p.sort sortKeys threshold = .ok v) (hpeers : v.OrdersPeers) :
    Runs.InOrder v.size v.peerOrder := by
  obtain ⟨-, -, ⟨-, rfl⟩ | ⟨sources, h⟩⟩ := Partition.sort_eq_ok hsort
  · have level (i j : Nat) : p.arrivalView.peerOrder i j = .eq := rfl
    exact ⟨fun i j => by rw [level, level]; rfl, fun i _ k _ _ _ _ _ => by rw [level]; rfl,
      fun i j _ _ => by rw [level]; rfl⟩
  · exact h.inOrder_peerOrder hpeers

/-! ### Searching for a target -/

section

variable {v : View} {target : Cell} {q : Nat}

theorem orderValueAt_mem (hq : q < v.size) : v.orderValueAt q ∈ target :: v.orderValues :=
  List.mem_cons_of_mem _ (List.mem_map_of_mem (List.mem_range.mpr hq))

variable (preordered : Cell.Preordered (target :: v.orderValues))
include preordered

theorem ordersPeers_of_preordered : v.OrdersPeers := fun _ _ _ hi hj hk =>
  preordered _ (orderValueAt_mem hi) _ (orderValueAt_mem hj) _ (orderValueAt_mem hk)

variable (ordered : Runs.InOrder v.size v.peerOrder)
include ordered

/-- The order values that come before a target come first. -/
theorem initial_lt : Initial (fun q => v.order (v.orderValueAt q) target == .lt) v.size := by
  intro i j hij hj hbefore
  by_contra hi
  rw [beq_iff_eq] at hbefore hi
  have after := preordered.isLE_trans v.isAscending List.mem_cons_self
    (orderValueAt_mem (Nat.lt_of_le_of_lt hij hj)) (orderValueAt_mem hj)
    ((v.order_ne_lt_iff _ _).mp hi) (ordered.le i j hij hj)
  exact (v.order_ne_lt_iff _ _).mpr after hbefore

/-- The order values that do not come after a target come first. -/
theorem initial_ne_gt : Initial (fun q => v.order (v.orderValueAt q) target != .gt) v.size := by
  intro i j hij hj hbefore
  rw [bne_iff_ne, order_ne_gt_iff] at hbefore ⊢
  exact preordered.isLE_trans v.isAscending (orderValueAt_mem (Nat.lt_of_le_of_lt hij hj))
    (orderValueAt_mem hj) List.mem_cons_self (ordered.le i j hij hj) hbefore

theorem firstAtOrAfter_le_iff (hq : q < v.size) :
    v.firstAtOrAfter target ≤ q ↔ v.order (v.orderValueAt q) target ≠ .lt := by
  have boundary := lt_bisect_iff (initial_lt preordered ordered) hq
  rw [beq_iff_eq] at boundary
  rw [firstAtOrAfter, ← Nat.not_lt, boundary]

theorem lt_firstAfter_iff (hq : q < v.size) :
    q < v.firstAfter target ↔ v.order (v.orderValueAt q) target ≠ .gt := by
  rw [firstAfter, lt_bisect_iff (initial_ne_gt preordered ordered) hq, bne_iff_ne]

end

/-- **The outcome of a search.** Whatever the test is, the search ends after as many looks at the
order values as the number of positions has binary digits at most, all of them at positions of the
view. It gives a position at which the test fails and in front of which it holds. Where the test
holds on an initial stretch only, that is the length of the stretch.

The first position at or after a target and the first one after it are searches. When comparison is
a total preorder of the first keys and the target, they are the number of positions that come before
the target and the number of those that do not come after it. -/
theorem search_outcome (v : View) :
    (∀ before : Cell → Bool, ∃ p reads, v.notedSearch before = (p, reads) ∧ v.search before = p ∧
      (∀ q ∈ reads, q < v.size) ∧ (∀ k, v.size < 2 ^ k → reads.length ≤ k) ∧
      p ≤ v.size ∧ (p = 0 ∨ before (v.orderValueAt (p - 1)) = true) ∧
      (p = v.size ∨ before (v.orderValueAt p) = false) ∧
      ∀ n ≤ v.size, (∀ q < v.size, before (v.orderValueAt q) = true ↔ q < n) → p = n) ∧
    (∀ target, v.firstAtOrAfter target = v.search (fun c => v.order c target == .lt) ∧
      v.firstAfter target = v.search fun c => v.order c target != .gt) ∧
    ∀ partition sortKeys threshold, Partition.sort partition sortKeys threshold = .ok v →
      ∀ target, Cell.Preordered (target :: v.orderValues) →
        v.firstAtOrAfter target =
          v.positions.countP (fun q => v.order (v.orderValueAt q) target == .lt) ∧
        v.firstAfter target =
          v.positions.countP (fun q => v.order (v.orderValueAt q) target != .gt) := by
  refine ⟨fun before => ?_,
    fun target => ⟨v.firstAtOrAfter_eq_search target, v.firstAfter_eq_search target⟩, ?_⟩
  · -- for any test the bisection stops where the test turns
    have bounds := @le_bisect (fun q => before (v.orderValueAt q)) 0 v.size (Nat.zero_le _)
    refine ⟨_, _, v.notedSearch_eq before, rfl, fun q hq => (mem_probes hq).2,
      fun k hk => length_probes_le hk, bounds.2, ?_, ?_, fun n hn stretch => ?_⟩
    · rcases Nat.eq_zero_or_pos (v.search before) with hzero | hpos
      · exact .inl hzero
      · exact .inr (before_bisect_pred hpos)
    · rcases Nat.lt_or_eq_of_le bounds.2 with hlt | heq
      · exact .inr (not_before_bisect hlt)
      · exact .inl heq
    · exact bisect_eq_of_stretch hn stretch
  · intro partition sortKeys threshold hsort target preordered
    -- in order and under a preorder, the tests of both searches hold on initial stretches
    have ordered := inOrder_of_sort hsort (ordersPeers_of_preordered preordered)
    exact ⟨bisect_eq_countP (initial_lt preordered ordered),
      bisect_eq_countP (initial_ne_gt preordered ordered)⟩

/-- Heights of camps, one of them not measured. -/
private def camps : Column := ⟨"height", .int64 #[some 3, none, some 8, some 3]⟩

/-- The camps from the highest to the lowest. -/
private def campsView : View :=
  Partition.viewBy ⟨⟨[.typed camps], [("height", 0)]⟩, #[0, 1, 2, 3]⟩ [⟨"height", false⟩]
    [.typed camps] 2

private theorem campsView_values :
    campsView.size = 4 ∧ campsView.orderValues = [.int 8, .int 3, .int 3, .null] := by
  cbv

/-- Three camps are measured, and two of these are on a level with the lowest. -/
theorem search_outcome_camps :
    Partition.sort ⟨⟨[.typed camps], [("height", 0)]⟩, #[0, 1, 2, 3]⟩ [⟨"height", false⟩] 2 =
        .ok campsView ∧
      (∃ reads, (campsView.notedSearch fun c => !c.isNull) = (3, reads) ∧ reads.length ≤ 3) ∧
      Cell.Preordered (.int 3 :: campsView.orderValues) ∧
      campsView.firstAtOrAfter (.int 3) = 1 ∧ campsView.firstAfter (.int 3) = 3 := by
  have hsort : Partition.sort ⟨⟨[.typed camps], [("height", 0)]⟩, #[0, 1, 2, 3]⟩
      [⟨"height", false⟩] 2 = .ok campsView := rfl
  obtain ⟨hsize, values⟩ := campsView_values
  have preordered : Cell.Preordered (.int 3 :: campsView.orderValues) := by
    rw [values]
    decide
  obtain ⟨searches, -, targets⟩ := search_outcome campsView
  obtain ⟨p, reads, noted, -, -, few, -, -, -, stretch⟩ := searches fun c => !c.isNull
  have measured : p = 3 := by
    refine stretch 3 (by rw [hsize]; decide) fun q hq => ?_
    rw [hsize] at hq
    match q, hq with
    | 0, _ | 1, _ | 2, _ => exact iff_of_true (by cbv) (by decide)
    | 3, _ => exact iff_of_false (Bool.eq_false_iff.mp (by cbv)) (by decide)
  obtain ⟨before, notAfter⟩ := targets _ _ _ hsort (.int 3) preordered
  refine ⟨hsort, ⟨reads, measured ▸ noted, few 3 (by rw [hsize]; decide)⟩, preordered, ?_, ?_⟩
  · rw [before]
    cbv
  · rw [notAfter]
    cbv

end View

end WindowQuery
