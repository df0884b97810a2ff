import WindowQuery.Proofs.Frame.Range

/-!
# RANGE frames as distances

Between two signed integer offsets a RANGE frame measures distance: it holds the rows whose order
value lies between `x + a` and `x + b`, where `x` is the value of the current row. Boundaries stop
at the ends of the 64-bit range, however, so a window that lies beyond an end altogether still
holds the rows at that very end (`mem_frameAt_rangeBetween`). A frame that starts after the current
row therefore holds it exactly when its value is the greatest one there is.

The least offset has no counterpart of the opposite sign. As a distance it counts as the least but
one (`reach`).
-/

namespace WindowQuery

/-! ### Saturating arithmetic -/

/-- The greatest integer of 64 bits. -/
def greatestInt : Int := 2 ^ 63 - 1

/-- The least integer of 64 bits. -/
def leastInt : Int := -2 ^ 63

/-- The nearest integer of 64 bits. -/
def saturate (i : Int) : Int := max leastInt (min greatestInt i)

/-- How far a signed offset reaches. The least one has no counterpart and reaches as far as the
one after it. -/
def reach (a : Int64) : Int := max (leastInt + 1) a.toInt

/-- An integer out of range is replaced by the nearest one in it. -/
theorem toInt_ofIntClamp (i : Int) : (Int64.ofIntClamp i).toInt = saturate i := by
  have low : Int64.minValue.toInt = leastInt := rfl
  have high : Int64.maxValue.toInt = greatestInt := rfl
  have order : leastInt ≤ greatestInt := by decide
  unfold Int64.ofIntClamp saturate
  split
  · split
    · rw [Int64.toInt_ofIntLE]
      omega
    · rw [high]
      omega
  · rw [low]
    omega

theorem saturate_toInt (x : Int64) : saturate x.toInt = x.toInt := by
  have low : leastInt ≤ x.toInt := Int64.le_toInt x
  have high : x.toInt ≤ greatestInt := Int64.toInt_le x
  unfold saturate
  omega

/-- A value lies between two saturated ends when it lies between the ends themselves, or when both
ends lie beyond the range and it is the value at that end of the range. -/
theorem saturate_between_iff {low high : Int} (h : low ≤ high) (y : Int64) :
    saturate low ≤ y.toInt ∧ y.toInt ≤ saturate high ↔
      (low ≤ y.toInt ∧ y.toInt ≤ high) ∨ (greatestInt < low ∧ y.toInt = greatestInt) ∨
        (high < leastInt ∧ y.toInt = leastInt) := by
  have least : leastInt ≤ y.toInt := Int64.le_toInt y
  have greatest : y.toInt ≤ greatestInt := Int64.toInt_le y
  unfold saturate
  omega

theorem reach_mono {a b : Int64} (h : a.toInt ≤ b.toInt) : reach a ≤ reach b := by
  unfold reach
  omega

theorem reach_eq {a : Int64} (h : leastInt < a.toInt) : reach a = a.toInt := by
  unfold reach
  omega

/-! ### Signed bounds -/

namespace Bound

theorem ofSigned_zero {a : Int64} (h : a.toInt = 0) : ofSigned (.int a) = .currentRow := by
  simp [ofSigned, Offset.isZero, h]

theorem ofSigned_neg {a : Int64} (h : a.toInt < 0) :
    ofSigned (.int a) = .preceding (.int (Int64.ofIntClamp a.toInt.natAbs)) := by
  have hzero : a.toInt ≠ 0 := by omega
  simp [ofSigned, Offset.isZero, Offset.isNegative, Offset.abs, hzero, h]

theorem ofSigned_pos {a : Int64} (h : 0 < a.toInt) : ofSigned (.int a) = .following (.int a) := by
  have hzero : a.toInt ≠ 0 := by omega
  have hneg : ¬ a.toInt < 0 := by omega
  simp [ofSigned, Offset.isZero, Offset.isNegative, hzero, hneg]

/-- A preceding bound made of a signed offset goes back as far as the offset reaches. -/
theorem toInt_ofIntClamp_natAbs {a : Int64} (h : a.toInt < 0) :
    (Int64.ofIntClamp a.toInt.natAbs).toInt = -reach a := by
  have low : leastInt ≤ a.toInt := Int64.le_toInt a
  rw [toInt_ofIntClamp, saturate, reach]
  unfold leastInt greatestInt at *
  omega

/-- The offset of a signed bound is not negative. -/
theorem offset_ofSigned (a : Int64) :
    ∀ o ∈ (ofSigned (.int a)).offset?, ∃ n : Int64, o = .int n ∧ 0 ≤ n.toInt := by
  rcases Int.lt_trichotomy a.toInt 0 with hneg | hzero | hpos
  · have back : 0 ≤ (Int64.ofIntClamp a.toInt.natAbs).toInt := by
      rw [toInt_ofIntClamp_natAbs hneg, reach]
      unfold leastInt
      omega
    rw [ofSigned_neg hneg]
    simpa [offset?] using back
  · rw [ofSigned_zero hzero]
    simp [offset?]
  · rw [ofSigned_pos hpos]
    simpa [offset?] using Int.le_of_lt hpos

theorem ofSigned_bounded (a : Int64) :
    ofSigned (.int a) ≠ .unboundedPreceding ∧ ofSigned (.int a) ≠ .unboundedFollowing := by
  rcases Int.lt_trichotomy a.toInt 0 with hneg | hzero | hpos
  · simp [ofSigned_neg hneg]
  · simp [ofSigned_zero hzero]
  · simp [ofSigned_pos hpos]

end Bound

/-- An integer that is not negative suits every unit. -/
theorem Offset.check_int (unit : FrameUnit) {n : Int64} (hn : 0 ≤ n.toInt) :
    Offset.check unit (.int n) = .ok () := by
  cases unit <;> simp [check, count, count?, isDistance, hn, Except.map]

/-- Every frame between signed offsets is valid. -/
theorem Frame.check_between (unit : FrameUnit) (a b : Int64) :
    (Frame.between unit (.int a) (.int b)).check = .ok () := by
  refine forM_eq_ok.mpr ?_
  intro o ho
  have suits : ∃ n : Int64, o = .int n ∧ 0 ≤ n.toInt := by
    rcases List.mem_append.mp ho with ho | ho
    · exact Bound.offset_ofSigned a o (Option.mem_toList.mp ho)
    · exact Bound.offset_ofSigned b o (Option.mem_toList.mp ho)
  obtain ⟨n, rfl, hn⟩ := suits
  exact Offset.check_int unit hn

namespace View

/-- A value moved by a distance along the direction of the first key. -/
def moved (v : View) (x distance : Int) : Int :=
  if v.isAscending then x + distance else x - distance

/-- A signed bound points at the value moved by the offset and saturated. -/
theorem boundary_ofSigned (v : View) (x a : Int64) :
    ∃ y, v.boundary (.int x) (Bound.ofSigned (.int a)) = .ok (some (.int y)) ∧
      y.toInt = saturate (v.moved x.toInt (reach a)) := by
  rcases Int.lt_trichotomy a.toInt 0 with hneg | hzero | hpos
  · rw [Bound.ofSigned_neg hneg, boundary, stepBack, moved]
    cases v.isAscending with
    | true =>
      refine ⟨_, rfl, ?_⟩
      rw [toInt_ofIntClamp, Bound.toInt_ofIntClamp_natAbs hneg, Int.sub_neg]
      rfl
    | false =>
      refine ⟨_, rfl, ?_⟩
      rw [toInt_ofIntClamp, Bound.toInt_ofIntClamp_natAbs hneg, Int.add_neg_eq_sub]
      rfl
  · have least : leastInt < a.toInt := by
      rw [hzero]
      decide
    refine ⟨x, by rw [Bound.ofSigned_zero hzero]; rfl, ?_⟩
    rw [moved, reach_eq least, hzero, Int.add_zero, Int.sub_zero, ite_self, saturate_toInt]
  · have least : leastInt < a.toInt := Int.lt_trans (by decide) hpos
    rw [Bound.ofSigned_pos hpos, boundary, stepForward, moved, reach_eq least]
    cases v.isAscending with
    | true => exact ⟨_, rfl, toInt_ofIntClamp _⟩
    | false => exact ⟨_, rfl, toInt_ofIntClamp _⟩

/-- Integers are ordered along the direction of the first key. -/
theorem order_int (v : View) (x y : Int64) : v.order (.int x) (.int y) =
    if v.isAscending then compare x.toInt y.toInt else compare y.toInt x.toInt := by
  cases direction : v.isAscending <;>
    simp [order, Cell.orderAlong, direction, Cell.order, Int.compare_swap]

/-- **RANGE frames measure distance**, up to the ends of the 64-bit range. Between two signed
offsets the frame holds the rows whose value lies between the two sums; where both sums lie beyond
an end of the range, it holds the rows at that end. In particular a frame that starts after the
current row holds it exactly when its value is the greatest one. -/
theorem mem_frameAt_rangeBetween {p : Partition} {column : String} {rest : List SortKey}
    {threshold : Nat} {v : View} (hsort : p.sort (⟨column, true⟩ :: rest) threshold = .ok v)
    (hcells : ∀ q, q < v.size → ∃ x, v.orderValueAt q = .int x) {a b : Int64}
    (hab : a.toInt ≤ b.toInt) {i : Nat} (hi : i < v.size) {x : Int64}
    (hx : v.orderValueAt i = .int x) :
    (Frame.rangeBetween (.int a) (.int b)).check = .ok () ∧
      ∃ span, v.frameAt i (Frame.rangeBetween (.int a) (.int b)) = .ok span ∧
        (∀ q, q ∈ span ↔ q < v.size ∧ ∃ y, v.orderValueAt q = .int y ∧
          ((x.toInt + reach a ≤ y.toInt ∧ y.toInt ≤ x.toInt + reach b) ∨
            (greatestInt < x.toInt + reach a ∧ y.toInt = greatestInt) ∨
            (x.toInt + reach b < leastInt ∧ y.toInt = leastInt))) ∧
        (0 < a.toInt → (i ∈ span ↔ x.toInt = greatestInt)) := by
  obtain ⟨-, keyed, ⟨hnone, -⟩ | ⟨sources, h⟩⟩ := Partition.sort_eq_ok hsort
  · exact absurd hnone (List.cons_ne_nil _ _)
  have hascending : v.isAscending = true := by
    rw [isAscending, keyed]
  have hkind : ∀ q, q < v.size → (v.orderValueAt q).hasKind .int64 = true :=
    fun q hq => Cell.hasKind_int64_iff.mpr (.inr (hcells q hq))
  obtain ⟨low, hlow, lowValue⟩ := v.boundary_ofSigned x a
  obtain ⟨high, hhigh, highValue⟩ := v.boundary_ofSigned x b
  rw [moved, if_pos hascending] at lowValue highValue
  rw [← hx] at hlow hhigh
  obtain ⟨span, hspan, members⟩ := h.frameAt_range hkind
    (f := .rangeBetween (.int a) (.int b)) hi rfl (Bound.ofSigned_bounded a).2
    (Bound.ofSigned_bounded b).1 (by simp [hx]) hlow hhigh (by rintro _ ⟨⟩; rfl)
    (by rintro _ ⟨⟩; rfl)
  have ordered : x.toInt + reach a ≤ x.toInt + reach b := by
    have := reach_mono hab
    omega
  -- the boundaries are the saturated sums, so the frame lies between those
  have between (q : Nat) : q ∈ span ↔ q < v.size ∧ ∃ y, v.orderValueAt q = .int y ∧
      ((x.toInt + reach a ≤ y.toInt ∧ y.toInt ≤ x.toInt + reach b) ∨
        (greatestInt < x.toInt + reach a ∧ y.toInt = greatestInt) ∨
        (x.toInt + reach b < leastInt ∧ y.toInt = leastInt)) := by
    rw [members]
    refine and_congr_right ?_
    intro hq
    obtain ⟨y, hy⟩ := hcells q hq
    simp only [hy, Option.mem_def, Option.some.injEq, forall_eq', order_int, hascending,
      if_true, Cell.int.injEq, exists_eq_left', ← saturate_between_iff ordered, ← lowValue, ← highValue,
      Int.compare_ne_lt, Int.compare_ne_gt]
  refine ⟨Frame.check_between .range a b, span, hspan, between, ?_⟩
  intro hpos
  -- beyond the current row only the upper end of the range brings a frame back to it
  have reached : reach a = a.toInt := reach_eq (Int.lt_trans (by decide) hpos)
  have greatest : x.toInt ≤ greatestInt := Int64.toInt_le x
  have least : leastInt ≤ x.toInt := Int64.le_toInt x
  simp only [between, hi, hx, Cell.int.injEq, exists_eq_left', true_and]
  omega

/-- Values at both ends of the range and one between them. -/
private def scale : Column :=
  ⟨"v", .int64 #[some Int64.maxValue, some 7, some Int64.minValue]⟩

/-- The values in ascending order. -/
private def scaleView : View :=
  Partition.viewBy ⟨⟨[.typed scale], [("v", 0)]⟩, #[0, 1, 2]⟩ [⟨"v", true⟩] [.typed scale] 4

private theorem scaleView_values :
    scaleView.size = 3 ∧
      scaleView.orderValueAt 0 = .int Int64.minValue ∧ scaleView.orderValueAt 1 = .int 7 ∧
      scaleView.orderValueAt 2 = .int Int64.maxValue := by
  cbv

/-- The values that the least offset reaches back to from seven. -/
theorem mem_frameAt_rangeBetween_scale :
    Partition.sort ⟨⟨[.typed scale], [("v", 0)]⟩, #[0, 1, 2]⟩ [⟨"v", true⟩] 4 = .ok scaleView ∧
      ∃ span, scaleView.frameAt 1 (.rangeBetween (.int Int64.minValue) (.int 0)) = .ok span ∧
        ∀ q, q ∈ span ↔ q < 3 ∧ ∃ y, scaleView.orderValueAt q = .int y ∧
          ((7 + (leastInt + 1) ≤ y.toInt ∧ y.toInt ≤ 7) ∨
            (greatestInt < 7 + (leastInt + 1) ∧ y.toInt = greatestInt) ∨
            (7 < leastInt ∧ y.toInt = leastInt)) := by
  have hsort : Partition.sort ⟨⟨[.typed scale], [("v", 0)]⟩, #[0, 1, 2]⟩ [⟨"v", true⟩] 4 =
      .ok scaleView := rfl
  obtain ⟨hsize, v0, v1, v2⟩ := scaleView_values
  have hcells : ∀ q, q < scaleView.size → ∃ x, scaleView.orderValueAt q = .int x := by
    intro q hq
    rw [hsize] at hq
    match q, hq with
    | 0, _ => exact ⟨_, v0⟩
    | 1, _ => exact ⟨_, v1⟩
    | 2, _ => exact ⟨_, v2⟩
  obtain ⟨-, span, hspan, members, -⟩ := mem_frameAt_rangeBetween hsort hcells
    (a := Int64.minValue) (b := 0) (by decide) (i := 1) (by rw [hsize]; decide) v1
  refine ⟨hsort, span, hspan, ?_⟩
  intro q
  rw [members, hsize]
  rfl

/-- Zero and the least value that there is. -/
private def lowest : Column := ⟨"v", .int64 #[some 0, some Int64.minValue]⟩

/-- The two values in ascending order. -/
private def lowestView : View :=
  Partition.viewBy ⟨⟨[.typed lowest], [("v", 0)]⟩, #[0, 1]⟩ [⟨"v", true⟩] [.typed lowest] 4

private theorem lowestView_values :
    lowestView.size = 2 ∧
      lowestView.orderValueAt 0 = .int Int64.minValue ∧ lowestView.orderValueAt 1 = .int 0 := by
  cbv

/-- The rows at the ends cannot be left out: a frame that starts one above the greatest value
still holds that value. Nor can the least offset be taken for what it says: at zero it does not
reach the least value. -/
theorem mem_frameAt_rangeBetween_needs_ends :
    (Partition.sort ⟨⟨[.typed scale], [("v", 0)]⟩, #[0, 1, 2]⟩ [⟨"v", true⟩] 4 = .ok scaleView ∧
      scaleView.orderValueAt 2 = .int Int64.maxValue ∧
      ¬ ∃ span, scaleView.frameAt 2 (.rangeBetween (.int 1) (.int 2)) = .ok span ∧
        ∀ q, q ∈ span ↔ q < scaleView.size ∧ ∃ y, scaleView.orderValueAt q = .int y ∧
          greatestInt + 1 ≤ y.toInt ∧ y.toInt ≤ greatestInt + 2) ∧
    Partition.sort ⟨⟨[.typed lowest], [("v", 0)]⟩, #[0, 1]⟩ [⟨"v", true⟩] 4 = .ok lowestView ∧
      lowestView.orderValueAt 1 = .int 0 ∧
      ¬ ∃ span, lowestView.frameAt 1 (.rangeBetween (.int Int64.minValue) (.int 0)) = .ok span ∧
        ∀ q, q ∈ span ↔ q < lowestView.size ∧ ∃ y, lowestView.orderValueAt q = .int y ∧
          0 + leastInt ≤ y.toInt ∧ y.toInt ≤ 0 + 0 := by
  constructor
  · obtain ⟨-, -, -, hvalue⟩ := scaleView_values
    refine ⟨rfl, hvalue, ?_⟩
    rintro ⟨span, hspan, members⟩
    have whole : scaleView.frameAt 2 (.rangeBetween (.int 1) (.int 2)) = .ok ⟨2, 3⟩ := by cbv
    cases whole.symm.trans hspan
    obtain ⟨-, y, hy, low, -⟩ := (members 2).mp (by decide)
    cases hvalue.symm.trans hy
    exact absurd low (by decide)
  · obtain ⟨hsize, least, hvalue⟩ := lowestView_values
    refine ⟨rfl, hvalue, ?_⟩
    rintro ⟨span, hspan, members⟩
    -- the offset without its sign is one short, and so is the frame
    have short : lowestView.frameAt 1 (.rangeBetween (.int Int64.minValue) (.int 0)) =
        .ok ⟨1, 2⟩ := by
      cbv
    cases short.symm.trans hspan
    have inside : 0 ∈ Span.mk 1 2 :=
      (members 0).mpr ⟨by rw [hsize]; decide, _, least, by decide, by decide⟩
    exact absurd inside (by decide)

end View

end WindowQuery
