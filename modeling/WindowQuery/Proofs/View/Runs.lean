import WindowQuery.View.Runs

/-!
# Runs of an ordered sequence

A run is found from its neighbours alone, so without further knowledge runs only say where
neighbours differ: a position lies in the run whose number is the number of starts up to it, less
one (`mem_span_iff`). On a sequence in order (`InOrder`) runs are the classes of equal elements and
come in order: `indexOf_le_iff` says that the numbers of runs compare like the elements themselves.
-/

namespace WindowQuery.Runs

variable {size : Nat} {same : Nat → Nat → Bool} {p run : Nat}

/-! ### Runs by their starts -/

/-- How many runs start below a position. -/
def startsBelow (same : Nat → Nat → Bool) (p : Nat) : Nat :=
  (List.range p).countP (startsAt same)

theorem startsBelow_succ (same : Nat → Nat → Bool) (p : Nat) :
    startsBelow same (p + 1) = startsBelow same p + if startsAt same p then 1 else 0 := by
  simp [startsBelow, List.range_succ, List.countP_append, List.countP_cons]

theorem startsBelow_mono (same : Nat → Nat → Bool) {p q : Nat} (h : p ≤ q) :
    startsBelow same p ≤ startsBelow same q := by
  induction h with
  | refl => exact Nat.le_refl _
  | step _ ih =>
    rw [startsBelow_succ]
    omega

/-- Position zero starts a run. -/
theorem startsBelow_pos (same : Nat → Nat → Bool) (p : Nat) : 0 < startsBelow same (p + 1) :=
  calc 0 < startsBelow same 1 := by simp [startsBelow, startsAt]
    _ ≤ startsBelow same (p + 1) := startsBelow_mono same (by omega)

/-- A position has the number of starts up to it, less one. -/
theorem getElem?_numberFrom (seen : Nat) (starts : List Bool) (hp : p < starts.length) :
    (numberFrom seen starts)[p]? = some (seen + (starts.take (p + 1)).countP id - 1) := by
  induction starts generalizing seen p with
  | nil => simp at hp
  | cons start rest ih =>
    cases p with
    | zero => cases start <;> simp [numberFrom]
    | succ p =>
      rw [numberFrom, List.getElem?_cons_succ, ih _ (by simpa using hp), List.take_succ_cons,
        List.countP_cons]
      cases start with
      | true =>
        simp only [if_true, Nat.add_assoc, Nat.add_comm 1]
        rfl
      | false => rfl

theorem indexOf_ofSame (hp : p < size) :
    (ofSame size same).indexOf p = startsBelow same (p + 1) - 1 := by
  have taken : (List.range size).take (p + 1) = List.range (p + 1) := by
    rw [List.take_range, Nat.min_eq_left hp]
  have number := getElem?_numberFrom 0 ((List.range size).map (startsAt same)) (p := p)
    (by simpa using hp)
  simp only [indexOf, ofSame, List.getElem?_toArray, number, Option.getD_some, ← List.map_take,
    taken, List.countP_map, Nat.zero_add]
  rfl

/-- Of the numbers below `size` that pass a test, the one at a place is at most `p` exactly when
more numbers up to `p` pass than the place says. -/
private theorem getD_filter_range_le_iff (test : Nat → Bool) {place : Nat} (hp : p < size) :
    ((List.range size).filter test)[place]?.getD size ≤ p ↔
      place < (List.range (p + 1)).countP test := by
  -- numbers above `p` come last, so a place is among those up to `p` or behind them
  have cut : List.range size = List.range (p + 1) ++ List.range' (p + 1) (size - (p + 1)) := by
    have join := List.range'_append_1 (s := 0) (m := p + 1) (n := size - (p + 1))
    rw [Nat.zero_add, Nat.add_sub_cancel' hp] at join
    rw [List.range_eq_range', List.range_eq_range', join]
  rw [cut, List.filter_append, List.countP_eq_length_filter]
  by_cases h : place < ((List.range (p + 1)).filter test).length
  · rw [List.getElem?_append_left h, List.getElem?_eq_getElem h, Option.getD_some]
    have front := (List.mem_filter.mp (List.getElem_mem h)).1
    rw [List.mem_range] at front
    exact iff_of_true (by omega) h
  · rw [List.getElem?_append_right (by omega)]
    refine iff_of_false (Nat.not_le_of_lt ?_) h
    cases found : ((List.range' (p + 1) (size - (p + 1))).filter test)[
        place - ((List.range (p + 1)).filter test).length]? with
    | none => exact hp
    | some later =>
      have back := (List.mem_filter.mp (List.mem_of_getElem? found)).1
      rw [List.mem_range'_1] at back
      exact back.1

/-- A run starts at or before a position exactly when its number is not above the number of the
run of the position. -/
theorem startOf_le_iff (same : Nat → Nat → Bool) (run : Nat) (hp : p < size) :
    (ofSame size same).startOf run ≤ p ↔ run ≤ (ofSame size same).indexOf p := by
  have pos := startsBelow_pos same p
  rw [indexOf_ofSame hp]
  simp only [startOf, ofSame, List.getElem?_toArray]
  rw [getD_filter_range_le_iff _ hp, ← startsBelow]
  omega

/-- **The positions of a run** are those that carry its number. -/
theorem mem_span_iff (hp : p < size) :
    p ∈ (ofSame size same).span run ↔ (ofSame size same).indexOf p = run := by
  have start := startOf_le_iff same run hp
  have stop := startOf_le_iff same (run + 1) hp
  simp only [Span.mem_iff, span]
  omega

/-- Only neighbours inside the sequence are compared. -/
theorem ofSame_congr {same' : Nat → Nat → Bool}
    (h : ∀ i, i + 1 < size → same i (i + 1) = same' i (i + 1)) :
    ofSame size same = ofSame size same' := by
  have starts : ∀ q ∈ List.range size, startsAt same q = startsAt same' q := by
    intro q hq
    cases q with
    | zero => rfl
    | succ q => simp [startsAt, h q (List.mem_range.mp hq)]
  simp only [ofSame, List.filter_congr starts, List.map_congr_left starts]

/-! ### Runs of a sequence in order -/

/-- Whether two positions are level. -/
abbrev level (order : Nat → Nat → Ordering) (i j : Nat) : Bool := order i j == .eq

/-- A sequence of positions **in order**: a comparison that is a total preorder on them, and no
position that comes after a later one. -/
structure InOrder (size : Nat) (order : Nat → Nat → Ordering) : Prop where
  swap : ∀ i j, (order i j).swap = order j i
  trans : ∀ i j k, i < size → j < size → k < size →
    (order i j).isLE = true → (order j k).isLE = true → (order i k).isLE = true
  le : ∀ i j, i ≤ j → j < size → (order i j).isLE = true

/-- A position goes on the run before it exactly when it is level with its neighbour. -/
theorem startsAt_succ (order : Nat → Nat → Ordering) (j : Nat) :
    startsAt (level order) (j + 1) = false ↔ order j (j + 1) = .eq := by
  simp [startsAt]

namespace InOrder

variable {order : Nat → Nat → Ordering} (h : InOrder size order) {i j : Nat}
include h

/-- A position is level with an earlier one exactly when it does not come after it. -/
theorem eq_iff_isLE (hij : i ≤ j) (hj : j < size) :
    order i j = .eq ↔ (order j i).isLE = true := by
  have le := h.le i j hij hj
  rw [← h.swap i j]
  cases hc : order i j <;> simp_all

/-- As many runs start up to two positions exactly when the positions are level. -/
theorem startsBelow_eq_iff (hij : i ≤ j) (hj : j < size) :
    startsBelow (level order) (i + 1) =
      startsBelow (level order) (j + 1) ↔ (order j i).isLE = true := by
  induction j with
  | zero =>
    obtain rfl := Nat.le_zero.mp hij
    exact iff_of_true rfl (h.le 0 0 (Nat.le_refl 0) hj)
  | succ j ih =>
    rcases Nat.lt_or_eq_of_le hij with hlt | rfl
    · have hij' : i ≤ j := Nat.le_of_lt_succ hlt
      have hj' : j < size := Nat.lt_of_succ_lt hj
      have hi' : i < size := Nat.lt_of_le_of_lt hij' hj'
      have mono := startsBelow_mono (level order) (Nat.add_le_add_right hij' 1)
      have continues := (startsAt_succ order j).trans (h.eq_iff_isLE (Nat.le_succ j) hj)
      -- one more position keeps the number of starts exactly when it is level with the last one
      have split : startsBelow (level order) (i + 1) =
            startsBelow (level order) (j + 1 + 1) ↔
          (order j i).isLE = true ∧ (order (j + 1) j).isLE = true := by
        rw [startsBelow_succ _ (j + 1), ← ih hij' hj', ← continues]
        cases startsAt (level order) (j + 1) with
        | true =>
          simp only [if_true, Bool.true_eq_false, and_false, iff_false]
          omega
        | false => simp
      rw [split]
      constructor
      · rintro ⟨hji, hstep⟩
        exact h.trans _ _ _ hj hj' hi' hstep hji
      · intro hji
        exact ⟨h.trans _ _ _ hj' hj hi' (h.le j (j + 1) (Nat.le_succ j) hj) hji,
          h.trans _ _ _ hj hi' hj' hji (h.le i j hij' hj')⟩
    · exact iff_of_true rfl (h.le _ _ (Nat.le_refl _) hj)

/-- **Runs come in order.** -/
theorem indexOf_le_iff (hi : i < size) (hj : j < size) :
    (ofSame size (level order)).indexOf i ≤
      (ofSame size (level order)).indexOf j ↔ (order i j).isLE = true := by
  have posi := startsBelow_pos (level order) i
  have posj := startsBelow_pos (level order) j
  rw [indexOf_ofSame hi, indexOf_ofSame hj]
  rcases Nat.le_total i j with hij | hji
  · have mono := startsBelow_mono (level order) (Nat.add_le_add_right hij 1)
    exact iff_of_true (by omega) (h.le i j hij hj)
  · have mono := startsBelow_mono (level order) (Nat.add_le_add_right hji 1)
    rw [← h.startsBelow_eq_iff hji hi]
    omega

/-- Positions share a run when they are level. -/
theorem indexOf_eq_iff (hi : i < size) (hj : j < size) :
    (ofSame size (level order)).indexOf i = (ofSame size (level order)).indexOf j ↔
      order i j = .eq := by
  rw [Nat.le_antisymm_iff, h.indexOf_le_iff hi hj, h.indexOf_le_iff hj hi, ← h.swap i j]
  cases order i j <;> simp

theorem start_spanAt_le_iff (hi : i < size) (hj : j < size) :
    ((ofSame size (level order)).spanAt i).start ≤ j ↔ (order i j).isLE = true := by
  rw [← h.indexOf_le_iff hi hj]
  exact startOf_le_iff _ _ hj

theorem lt_stop_spanAt_iff (hi : i < size) (hj : j < size) :
    j < ((ofSame size (level order)).spanAt i).stop ↔ (order j i).isLE = true := by
  have stop := startOf_le_iff (level order) ((ofSame size (level order)).indexOf i + 1) hj
  rw [← h.indexOf_le_iff hj hi]
  simp only [spanAt, span]
  omega

/-- **Runs are the classes of level positions.** -/
theorem mem_spanAt_iff (hi : i < size) (hj : j < size) :
    j ∈ (ofSame size (level order)).spanAt i ↔ order j i = .eq := by
  rw [Span.mem_iff, h.start_spanAt_le_iff hi hj, h.lt_stop_spanAt_iff hi hj, ← h.swap j i]
  cases order j i <;> simp

end InOrder

end WindowQuery.Runs
