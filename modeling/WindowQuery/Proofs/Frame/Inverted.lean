import WindowQuery.Proofs.Frame.Distance
import WindowQuery.Proofs.Frame.Rows
import WindowQuery.Proofs.View.Numbering

/-!
# Inverted frames

A frame from a signed distance to a smaller one ends before it starts, and yet it is not always
empty: each end is cut to what there is before the two are brought together. Ends that lie beyond
the 64-bit range, or behind the last group, are cut to the same boundary and leave it in the frame.
`View.frameAt_inverted` says which positions can be left. A ROWS frame is empty, a RANGE frame holds
the rows at a boundary that both ends are cut to, and a GROUPS frame is empty unless both ends are
cut to the same group.
-/

namespace WindowQuery

/-! ### Signed bounds -/

/-- A greater offset reaches further, but for the two least ones. -/
theorem reach_lt_or {a b : Int64} (h : b.toInt < a.toInt) :
    reach b < reach a ∨ reach a = leastInt + 1 ∧ reach b = leastInt + 1 := by
  unfold reach
  omega

/-- The nearest to a number of the groups that there are. -/
def nearestGroup (count : Nat) (g : Int) : Int := max 0 (min (count - 1) g)

namespace Bound

/-- A signed bound goes back, stays or goes forward, by as much as its offset reaches. -/
theorem ofSigned_cases (a : Int64) :
    (∃ o n, ofSigned (.int a) = .preceding o ∧ o.count = .ok n ∧ reach a = -n) ∨
      (ofSigned (.int a) = .currentRow ∧ reach a = 0) ∨
      ∃ o n, ofSigned (.int a) = .following o ∧ o.count = .ok n ∧ reach a = n := by
  have least : leastInt + 1 ≤ 0 := by decide
  rcases Int.lt_trichotomy a.toInt 0 with hneg | hzero | hpos
  · have back := toInt_ofIntClamp_natAbs hneg
    have low : reach a ≤ 0 := by
      unfold reach
      omega
    exact .inl ⟨_, _, ofSigned_neg hneg, Offset.count_int (by omega), by omega⟩
  · refine .inr (.inl ⟨ofSigned_zero hzero, ?_⟩)
    unfold reach
    omega
  · have same := reach_eq (a := a) (by omega)
    exact .inr (.inr ⟨_, _, ofSigned_pos hpos, Offset.count_int (Int.le_of_lt hpos), by omega⟩)

/-- A signed bound points at the group nearest to the sum. -/
theorem group_ofSigned {count g : Nat} (hg : g < count) (a : Int64) :
    ∃ k : Nat, (ofSigned (.int a)).group count g = .ok k ∧
      (k : Int) = nearestGroup count (g + reach a) := by
  unfold nearestGroup
  obtain ⟨o, n, ha, hn, reaches⟩ | ⟨ha, reaches⟩ | ⟨o, n, ha, hn, reaches⟩ := ofSigned_cases a
  · exact ⟨g - n, by rw [ha, group, hn]; rfl, by omega⟩
  · exact ⟨g, by rw [ha]; rfl, by omega⟩
  · exact ⟨min (g + n) (count - 1), by rw [ha, group, hn]; rfl, by omega⟩

end Bound

namespace View

/-- A ROWS frame starts at the sum of position and signed offset, cut at the first position. -/
theorem rowsStart_ofSigned (v : View) (i : Nat) (a : Int64) :
    ∃ start, v.rowsStart i (Bound.ofSigned (.int a)) = .ok start ∧
      (start : Int) = max 0 (i + reach a) := by
  obtain ⟨o, n, ha, hn, reaches⟩ | ⟨ha, reaches⟩ | ⟨o, n, ha, hn, reaches⟩ := Bound.ofSigned_cases a
  · exact ⟨i - n, by rw [ha, rowsStart, hn]; rfl, by omega⟩
  · exact ⟨i, by rw [ha]; rfl, by omega⟩
  · exact ⟨i + n, by rw [ha, rowsStart, hn]; rfl, by omega⟩

/-- A ROWS frame stops behind the sum of position and signed offset. -/
theorem rowsStop_ofSigned (v : View) (i : Nat) (a : Int64) :
    ∃ stop, v.rowsStop i (Bound.ofSigned (.int a)) = .ok stop ∧
      (stop : Int) = max 0 (i + reach a + 1) := by
  obtain ⟨o, n, ha, hn, reaches⟩ | ⟨ha, reaches⟩ | ⟨o, n, ha, hn, reaches⟩ := Bound.ofSigned_cases a
  · exact ⟨i + 1 - n, by rw [ha, rowsStop, hn]; rfl, by omega⟩
  · exact ⟨i + 1, by rw [ha]; rfl, by omega⟩
  · exact ⟨i + n + 1, by rw [ha, rowsStop, hn]; rfl, by omega⟩

/-! ### Inverted frames by unit -/

section

variable {v : View} {a b : Int64} (hab : b.toInt < a.toInt) {i : Nat} (hi : i < v.size)
include hab hi

/-- An inverted ROWS frame is empty. -/
theorem frameAt_rowsBetween_inverted :
    ∃ span, v.frameAt i (.rowsBetween a b) = .ok span ∧
      ((i : Int) < greatestInt → span.isEmpty = true) := by
  obtain ⟨start, hstart, startValue⟩ := v.rowsStart_ofSigned i a
  obtain ⟨stop, hstop, stopValue⟩ := v.rowsStop_ofSigned i b
  have raw : v.rawFrameAt i (.rowsBetween a b) = .ok ⟨start, stop⟩ :=
    ends_eq_ok.mpr ⟨hstart, hstop⟩
  refine ⟨v.clampFrame (.rowsBetween a b) ⟨start, stop⟩, frameAt_eq_ok hi raw, fun hrow =>
    Span.isEmpty_iff.mpr fun q hq => ?_⟩
  obtain ⟨-, -, low, high⟩ := mem_clampFrame_iff.mp hq
  -- only the two least offsets reach equally far, and both in front of the first position
  have apart := reach_lt_or hab
  unfold leastInt at apart
  unfold greatestInt at hrow
  dsimp only at low high
  omega

namespace SortedBy

variable {sources : List Source} (h : v.SortedBy sources)
include h

/-- **An inverted RANGE frame** holds the rows whose value is the boundary of both its ends. -/
theorem frameAt_rangeBetween_inverted
    (hcells : ∀ q, q < v.size → v.orderValueAt q = .null ∨ ∃ y, v.orderValueAt q = .int y)
    {x : Int64} (hx : v.orderValueAt i = .int x) :
    ∃ span, v.frameAt i (.rangeBetween (.int a) (.int b)) = .ok span ∧
      ∀ q, q ∈ span ↔ q < v.size ∧ ∃ y, v.orderValueAt q = .int y ∧
        y.toInt = saturate (v.moved x.toInt (reach a)) ∧
        y.toInt = saturate (v.moved x.toInt (reach b)) := by
  have hkind : ∀ q, q < v.size → (v.orderValueAt q).hasKind .int64 = true :=
    fun q hq => Cell.hasKind_int64_iff.mpr (hcells q hq)
  obtain ⟨low, hlow, lowValue⟩ := v.boundary_ofSigned x a
  obtain ⟨high, hhigh, highValue⟩ := v.boundary_ofSigned x b
  rw [← hx] at hlow hhigh
  obtain ⟨span, hspan, members⟩ := h.frameAt_range hkind
    (f := .rangeBetween (.int a) (.int b)) hi rfl (Bound.ofSigned_bounded a).2
    (Bound.ofSigned_bounded b).1 (by simp [hx]) hlow hhigh (by rintro _ ⟨⟩; rfl)
    (by rintro _ ⟨⟩; rfl)
  refine ⟨span, hspan, fun q => (members q).trans (and_congr_right fun hq => ?_)⟩
  simp only [Option.mem_def, Option.some.injEq, forall_eq', ← lowValue, ← highValue]
  -- the boundaries come in the wrong order
  have inverted : if v.isAscending then high.toInt ≤ low.toInt else low.toInt ≤ high.toInt := by
    have := reach_lt_or hab
    rw [lowValue, highValue]
    unfold moved saturate
    split <;> omega
  rcases hcells q hq with hnull | ⟨y, hy⟩
  · rw [hnull, order_null_int, order_null_int]
    cases v.isAscending <;> simp
  · rw [hy, order_int, order_int]
    simp only [Cell.int.injEq, exists_eq_left']
    cases direction : v.isAscending with
    | true =>
      rw [direction, if_pos rfl] at inverted
      simp only [if_true, Int.compare_ne_lt, Int.compare_ne_gt]
      omega
    | false =>
      rw [direction] at inverted
      simp only [Bool.false_eq_true, if_false, Int.compare_ne_lt, Int.compare_ne_gt] at inverted ⊢
      omega

/-- **An inverted GROUPS frame** is empty, unless both ends are cut to the same group. -/
theorem frameAt_groupsBetween_inverted :
    ∃ span, v.frameAt i (.groupsBetween a b) = .ok span ∧
      (nearestGroup v.peers.count (v.peers.indexOf i + reach a) ≠
        nearestGroup v.peers.count (v.peers.indexOf i + reach b) → span.isEmpty = true) := by
  have hg := h.indexOf_lt_count hi
  obtain ⟨first, hfirst, firstValue⟩ := Bound.group_ofSigned hg a
  obtain ⟨last, hlast, lastValue⟩ := Bound.group_ofSigned hg b
  obtain ⟨span, hspan⟩ := (h.resolves_groups_iff (f := .groupsBetween a b) hi rfl).mpr
    ⟨⟨first, hfirst⟩, last, hlast⟩
  refine ⟨span, hspan, fun hne => Span.isEmpty_iff.mpr fun q hq => ?_⟩
  have covers := (mem_iff_covers hspan).mp hq
  obtain ⟨-, first', last', hfirst', hlast', low, high⟩ :=
    (h.covers_groups_iff hi rfl (lt_of_mem_frameAt hspan hq)).mp covers
  cases hfirst.symm.trans hfirst'
  cases hlast.symm.trans hlast'
  have := reach_lt_or hab
  unfold nearestGroup at *
  omega

end SortedBy

end

/-- **Inverted frames** between signed offsets are valid and resolve. A ROWS frame is empty. A RANGE
frame holds the rows, if any, whose value is what both ends saturate to. A GROUPS frame is empty
unless both ends are nearest to the same group. -/
theorem frameAt_inverted {p : Partition} {first : SortKey} {rest : List SortKey} {threshold : Nat}
    {v : View} (hsort : p.sort (first :: rest) threshold = .ok v)
    (hcells : ∀ q, q < v.size → v.orderValueAt q = .null ∨ ∃ y, v.orderValueAt q = .int y)
    {a b : Int64} (hab : b.toInt < a.toInt) {i : Nat} (hi : i < v.size) {x : Int64}
    (hx : v.orderValueAt i = .int x) :
    ((Frame.rowsBetween a b).check = .ok () ∧ ∃ span, v.frameAt i (.rowsBetween a b) = .ok span ∧
      ((i : Int) < greatestInt → span.isEmpty = true)) ∧
    ((Frame.rangeBetween (.int a) (.int b)).check = .ok () ∧
      ∃ span, v.frameAt i (.rangeBetween (.int a) (.int b)) = .ok span ∧
        (∀ q, q ∈ span ↔ q < v.size ∧ ∃ y, v.orderValueAt q = .int y ∧
          y.toInt = saturate (v.moved x.toInt (reach a)) ∧
          y.toInt = saturate (v.moved x.toInt (reach b))) ∧
        (saturate (v.moved x.toInt (reach a)) ≠ saturate (v.moved x.toInt (reach b)) →
          span.isEmpty = true)) ∧
    ((Frame.groupsBetween a b).check = .ok () ∧
      ∃ span, v.frameAt i (.groupsBetween a b) = .ok span ∧
        (nearestGroup v.peers.count (v.peers.indexOf i + reach a) ≠
          nearestGroup v.peers.count (v.peers.indexOf i + reach b) → span.isEmpty = true)) := by
  obtain ⟨-, -, ⟨hnone, -⟩ | ⟨sources, h⟩⟩ := Partition.sort_eq_ok hsort
  · exact absurd hnone (List.cons_ne_nil _ _)
  refine ⟨⟨Frame.check_between .rows a b, frameAt_rowsBetween_inverted hab hi⟩,
    ⟨Frame.check_between .range a b, ?_⟩,
    ⟨Frame.check_between .groups a b, h.frameAt_groupsBetween_inverted hab hi⟩⟩
  -- only a value at both ends is in the RANGE frame, so ends that differ leave none
  obtain ⟨span, hspan, members⟩ := h.frameAt_rangeBetween_inverted hab hi hcells hx
  refine ⟨span, hspan, members, fun hne => Span.isEmpty_iff.mpr fun q hq => ?_⟩
  obtain ⟨-, y, -, atStart, atStop⟩ := (members q).mp hq
  exact hne (atStart.symm.trans atStop)

/-- Measured heights, one of them missing. -/
private def heights : Column := ⟨"h", .int64 #[some 3, some 1, none, some 3]⟩

/-- The heights in ascending order, the missing one in front. -/
private def heightsView : View :=
  Partition.viewBy ⟨⟨[.typed heights], [("h", 0)]⟩, #[0, 1, 2, 3]⟩ [⟨"h", true⟩] [.typed heights] 4

private theorem heightsView_values :
    heightsView.size = 4 ∧
      heightsView.orderValueAt 0 = .null ∧ heightsView.orderValueAt 1 = .int 1 ∧
      heightsView.orderValueAt 2 = .int 3 ∧ heightsView.orderValueAt 3 = .int 3 := by
  cbv

theorem frameAt_inverted_heights :
    Partition.sort ⟨⟨[.typed heights], [("h", 0)]⟩, #[0, 1, 2, 3]⟩ [⟨"h", true⟩] 4 =
        .ok heightsView ∧
      ∀ f ∈ [Frame.rowsBetween 2 (-1), .rangeBetween (.int 2) (.int (-1)), .groupsBetween 2 (-1)],
        ∃ span, heightsView.frameAt 1 f = .ok span ∧ span.isEmpty = true := by
  have hsort : Partition.sort ⟨⟨[.typed heights], [("h", 0)]⟩, #[0, 1, 2, 3]⟩ [⟨"h", true⟩] 4 =
      .ok heightsView := rfl
  obtain ⟨hsize, v0, v1, v2, v3⟩ := heightsView_values
  have hcells : ∀ q, q < heightsView.size →
      heightsView.orderValueAt q = .null ∨ ∃ y, heightsView.orderValueAt q = .int y := by
    intro q hq
    rw [hsize] at hq
    match q, hq with
    | 0, _ => exact .inl v0
    | 1, _ => exact .inr ⟨_, v1⟩
    | 2, _ => exact .inr ⟨_, v2⟩
    | 3, _ => exact .inr ⟨_, v3⟩
  obtain ⟨⟨-, rows, hrows, rowsEmpty⟩, ⟨-, range, hrange, -, rangeEmpty⟩,
    ⟨-, groups, hgroups, groupsEmpty⟩⟩ :=
      frameAt_inverted hsort hcells (a := 2) (b := -1) (by decide) (i := 1)
        (by rw [hsize]; decide) v1
  have peers : heightsView.peers.count = 3 ∧ heightsView.peers.indexOf 1 = 1 := by cbv
  refine ⟨hsort, List.forall_mem_cons.mpr ⟨⟨rows, hrows, rowsEmpty (by decide)⟩,
    List.forall_mem_cons.mpr ⟨⟨range, hrange, rangeEmpty (by decide)⟩,
    List.forall_mem_singleton.mpr ⟨groups, hgroups, groupsEmpty ?_⟩⟩⟩⟩
  rw [peers.1, peers.2]
  decide

/-- A single row with the greatest value there is. -/
private def peak : Column := ⟨"v", .int64 #[some Int64.maxValue]⟩

/-- A view of the greatest value alone. -/
private def peakView : View :=
  Partition.viewBy ⟨⟨[.typed peak], [("v", 0)]⟩, #[0]⟩ [⟨"v", true⟩] [.typed peak] 4

/-- Where both ends are cut to the same boundary an inverted frame is not empty. -/
theorem frameAt_inverted_needs_apart :
    Partition.sort ⟨⟨[.typed peak], [("v", 0)]⟩, #[0]⟩ [⟨"v", true⟩] 4 = .ok peakView ∧
      peakView.orderValueAt 0 = .int Int64.maxValue ∧
      ¬ (∃ span, peakView.frameAt 0 (.rangeBetween (.int 2) (.int 1)) = .ok span ∧
        span.isEmpty = true) ∧
      ¬ ∃ span, peakView.frameAt 0 (.groupsBetween 2 (-1)) = .ok span ∧ span.isEmpty = true := by
  have range : peakView.frameAt 0 (.rangeBetween (.int 2) (.int 1)) = .ok ⟨0, 1⟩ := by cbv
  have groups : peakView.frameAt 0 (.groupsBetween 2 (-1)) = .ok ⟨0, 1⟩ := by cbv
  refine ⟨rfl, by cbv, ?_, ?_⟩
  · rintro ⟨span, hspan, hempty⟩
    cases range.symm.trans hspan
    exact absurd hempty (by decide)
  · rintro ⟨span, hspan, hempty⟩
    cases groups.symm.trans hspan
    exact absurd hempty (by decide)

end View

end WindowQuery
