import WindowQuery.Proofs.Cell.Preorder
import WindowQuery.Proofs.Number.Rounding

/-!
# Integers among doubles

Two integers compare exactly, and an integer meets a double as the double it rounds to. Rounding is
monotone, so comparison of numbers follows their doubles (`isLE_order_of_float?`), and conversely
unless both are integers (`order_eq_of_float?`). On NULL and the numbers transitivity can then fail
in one way only: two integers round to the double between them although the first is greater
(`not_trans_iff_blurs`). With integers of up to 53 bits that does not happen (`Blurs.not_exact`),
and comparison is a total preorder (`order_numbers`).
-/

namespace WindowQuery.Cell

/-- Two integers **blur** around a double: both round to it, and the first is greater. -/
inductive Blurs : Cell → Cell → Cell → Prop where
  | rounded {i j : Int64} {x : Float} (lt : j.toInt < i.toInt)
      (left : Binary64.same (Binary64.ofInt i.toInt) x = true)
      (right : Binary64.same (Binary64.ofInt j.toInt) x = true) : Blurs (int i) (float x) (int j)

/-- The cell is no integer beyond `2 ^ 53`, up to where doubles hold every integer exactly. -/
def isExact : Cell → Bool
  | int i => decide (-2 ^ 53 ≤ i.toInt ∧ i.toInt ≤ 2 ^ 53)
  | _ => true

/-! ### The doubles of numbers -/

variable {a b c : Cell} {x y z : Float}

theorem exists_float? (h : a.isNumeric = true) : ∃ x, a.float? = some x := by
  cases a with
  | int i => exact ⟨_, rfl⟩
  | float x => exact ⟨x, rfl⟩
  | null | text | bool => cases h

/-- Numbers compare as their doubles unless both are integers. -/
theorem order_eq_of_float? (ha : a.float? = some x) (hb : b.float? = some y)
    (hints : ∀ i j, a = int i → b ≠ int j) : order a b = Binary64.order x y := by
  cases a with
  | int i =>
    cases b with
    | int j => exact absurd rfl (hints i j rfl)
    | float => cases ha; cases hb; rfl
    | null | text | bool => cases hb
  | float =>
    cases b with
    | int | float => cases ha; cases hb; rfl
    | null | text | bool => cases hb
  | null | text | bool => cases ha

/-- **Doubles follow the numbers**: rounding never exchanges two of them. -/
theorem isLE_order_of_float? (ha : a.float? = some x) (hb : b.float? = some y)
    (hab : (order a b).isLE = true) : (Binary64.order x y).isLE = true := by
  by_cases hints : ∃ i j, a = int i ∧ b = int j
  · obtain ⟨i, j, rfl, rfl⟩ := hints
    cases ha
    cases hb
    exact Std.isLE_compare.mpr (Binary64.rank_ofInt_mono (Std.isLE_compare.mp hab))
  · rwa [← order_eq_of_float? ha hb fun i j hi hj => hints ⟨i, j, hi, hj⟩]

/-! ### Where transitivity fails -/

namespace Blurs

theorem order_eq (h : Blurs a b c) : order a b = .eq ∧ order b c = .eq ∧ order a c = .gt := by
  obtain @⟨i, j, x, lt, left, right⟩ := h
  refine ⟨Binary64.same_iff.mp left, ?_, Std.compare_eq_gt.mpr lt⟩
  rw [← order_swap (int j)]
  exact congrArg Ordering.swap (Binary64.same_iff.mp right)

/-- One of the integers has more than 53 bits. -/
theorem not_exact (h : Blurs a b c) : ¬ (a.isExact = true ∧ c.isExact = true) := by
  obtain @⟨i, j, x, lt, left, right⟩ := h
  rintro ⟨hi, hj⟩
  have hi := of_decide_eq_true hi
  have hj := of_decide_eq_true hj
  have apart := Binary64.rank_ofInt_lt lt hj.1 hi.2
  rw [Binary64.same, beq_iff_eq] at left right
  rw [left, right] at apart
  exact UInt64.lt_irrefl _ apart

end Blurs

/-- Three numbers in a row are in order unless the outer ones blur. -/
theorem isLE_trans_or_blurs (ha : a.isNumeric = true) (hb : b.isNumeric = true)
    (hc : c.isNumeric = true) (hab : (order a b).isLE = true) (hbc : (order b c).isLE = true) :
    (order a c).isLE = true ∨ Blurs a b c := by
  obtain ⟨x, hx⟩ := exists_float? ha
  obtain ⟨y, hy⟩ := exists_float? hb
  obtain ⟨z, hz⟩ := exists_float? hc
  -- in order as cells, the numbers are in order as doubles
  have hxy := isLE_order_of_float? hx hy hab
  have hyz := isLE_order_of_float? hy hz hbc
  by_cases hints : ∃ i j, a = int i ∧ c = int j
  · obtain ⟨i, j, rfl, rfl⟩ := hints
    cases b with
    | int k => exact .inl (Std.TransOrd.isLE_trans (α := Int) hab hbc)
    | float y' =>
      by_cases hgt : j.toInt < i.toInt
      · -- the doubles are in this order and, by rounding, in the opposite one
        cases hx
        cases hy
        cases hz
        have hxy : Binary64.rank (Binary64.ofInt i.toInt) ≤ Binary64.rank y :=
          Std.isLE_compare.mp hxy
        have hyz : Binary64.rank y ≤ Binary64.rank (Binary64.ofInt j.toInt) :=
          Std.isLE_compare.mp hyz
        have hzx := Binary64.rank_ofInt_mono (Int.le_of_lt hgt)
        refine .inr (.rounded hgt (beq_iff_eq.mpr ?_) (beq_iff_eq.mpr ?_))
        · exact UInt64.le_antisymm hxy (UInt64.le_trans hyz hzx)
        · exact UInt64.le_antisymm (UInt64.le_trans hzx hxy) hyz
      · exact .inl (Std.isLE_compare.mpr (Int.not_lt.mp hgt))
    | null | text | bool => cases hb
  · left
    rw [order_eq_of_float? hx hz fun i j hi hj => hints ⟨i, j, hi, hj⟩]
    exact Binary64.order_isLE_trans hxy hyz

/-- The same with NULL, which comes first. -/
theorem isLE_trans_or_blurs_of_null (ha : a.isNull = true ∨ a.isNumeric = true)
    (hb : b.isNull = true ∨ b.isNumeric = true) (hc : c.isNull = true ∨ c.isNumeric = true)
    (hab : (order a b).isLE = true) (hbc : (order b c).isLE = true) :
    (order a c).isLE = true ∨ Blurs a b c := by
  rcases ha with ha | ha
  · rw [(isNull_iff a).mp ha]
    exact .inl (isLE_order_null_left c)
  rcases hb with hb | hb
  · rw [(isNull_iff b).mp hb, isLE_order_null_right] at hab
    rw [hab]
    exact .inl (isLE_order_null_left c)
  rcases hc with hc | hc
  · rw [(isNull_iff c).mp hc] at hbc ⊢
    rw [isLE_order_null_right.mp hbc] at hab
    exact .inl hab
  exact isLE_trans_or_blurs ha hb hc hab hbc

/-- **Transitivity fails** exactly where the outer cells blur. -/
theorem not_trans_iff_blurs (ha : a.isNull = true ∨ a.isNumeric = true)
    (hb : b.isNull = true ∨ b.isNumeric = true) (hc : c.isNull = true ∨ c.isNumeric = true) :
    (order a b ≠ .gt ∧ order b c ≠ .gt ∧ order a c = .gt) ↔ Blurs a b c := by
  constructor
  · rintro ⟨hab, hbc, hac⟩
    have hab := Ordering.isLE_iff_ne_gt.mpr hab
    have hbc := Ordering.isLE_iff_ne_gt.mpr hbc
    refine (isLE_trans_or_blurs_of_null ha hb hc hab hbc).resolve_left fun hle => ?_
    exact Ordering.isLE_iff_ne_gt.mp hle hac
  · intro h
    obtain ⟨hab, hbc, hac⟩ := h.order_eq
    rw [hab, hbc]
    exact ⟨by decide, by decide, hac⟩

/-- For cells that compare equal the outer ones may blur either way round. -/
theorem not_trans_eq_iff_blurs (ha : a.isNull = true ∨ a.isNumeric = true)
    (hb : b.isNull = true ∨ b.isNumeric = true) (hc : c.isNull = true ∨ c.isNumeric = true) :
    (order a b = .eq ∧ order b c = .eq ∧ order a c ≠ .eq) ↔ Blurs a b c ∨ Blurs c b a := by
  constructor
  · rintro ⟨hab, hbc, hac⟩
    -- the outer cells are apart in one of two directions
    cases h : order a c with
    | eq => exact absurd h hac
    | gt =>
      refine .inl ((not_trans_iff_blurs ha hb hc).mp ⟨?_, ?_, h⟩)
      · rw [hab]
        decide
      · rw [hbc]
        decide
    | lt =>
      refine .inr ((not_trans_iff_blurs hc hb ha).mp ⟨?_, ?_, ?_⟩)
      · rw [← order_swap b c, hbc]
        decide
      · rw [← order_swap a b, hab]
        decide
      · rw [← order_swap a c, h]
        rfl
  · rintro (h | h)
    · obtain ⟨hab, hbc, hac⟩ := h.order_eq
      exact ⟨hab, hbc, by rw [hac]; decide⟩
    · obtain ⟨hcb, hba, hca⟩ := h.order_eq
      rw [← order_swap b a, ← order_swap c b, ← order_swap c a, hba, hcb, hca]
      exact ⟨rfl, rfl, by decide⟩

/-- **Comparison of numbers.** On NULL, integers and doubles comparison is reflexive, and exchanging
the cells reverses it. It is transitive unless the outer cells are integers that blur around a
double in the middle, which takes an integer of more than 53 bits. -/
theorem order_numbers (ha : a.isNull = true ∨ a.isNumeric = true)
    (hb : b.isNull = true ∨ b.isNumeric = true) (hc : c.isNull = true ∨ c.isNumeric = true) :
    order a a = .eq ∧ order b a = (order a b).swap ∧
      ((order a b ≠ .gt ∧ order b c ≠ .gt ∧ order a c = .gt) ↔ Blurs a b c) ∧
      ((order a b = .eq ∧ order b c = .eq ∧ order a c ≠ .eq) ↔ Blurs a b c ∨ Blurs c b a) ∧
      (a.isExact = true → c.isExact = true → ¬ Blurs a b c) :=
  ⟨order_self a, (order_swap a b).symm, not_trans_iff_blurs ha hb hc,
    not_trans_eq_iff_blurs ha hb hc, fun hea hec h => h.not_exact ⟨hea, hec⟩⟩

/-- The double `2 ^ 53`, to which `2 ^ 53 + 1` rounds. -/
private def brink : Float := Float.ofBits 0x4340000000000000

private theorem blurs_brink : Blurs (int 9007199254740993) (float brink) (int 9007199254740992) :=
  .rounded (by decide) (by decide) (by decide)

/-- The numbers `2 ^ 53 + 1` and `2 ^ 53` blur around the double. Those up to `2 ^ 53` do not. -/
theorem order_numbers_brink :
    (int 9007199254740993).isNumeric = true ∧ (float brink).isNumeric = true ∧
      (int 9007199254740992).isNumeric = true ∧
      (order (int 9007199254740993) (float brink) ≠ .gt ∧
        order (float brink) (int 9007199254740992) ≠ .gt ∧
        order (int 9007199254740993) (int 9007199254740992) = .gt) ∧
      (int 9007199254740991).isExact = true ∧ (int 9007199254740992).isExact = true ∧
      ¬ Blurs (int 9007199254740991) (float brink) (int 9007199254740992) := by
  have beyond := order_numbers (a := int 9007199254740993) (b := float brink)
    (c := int 9007199254740992) (.inr rfl) (.inr rfl) (.inr rfl)
  have within := order_numbers (a := int 9007199254740991) (b := float brink)
    (c := int 9007199254740992) (.inr rfl) (.inr rfl) (.inr rfl)
  exact ⟨rfl, rfl, rfl, beyond.2.2.1.mpr blurs_brink, by decide, by decide,
    within.2.2.2.2 (by decide) (by decide)⟩

/-- Without a bound on the integers comparison of numbers is **not transitive**. -/
theorem order_numbers_needs_exact : ¬ ∀ a b c : Cell, a.isNull = true ∨ a.isNumeric = true →
    b.isNull = true ∨ b.isNumeric = true → c.isNull = true ∨ c.isNumeric = true →
    order a b ≠ .gt → order b c ≠ .gt → order a c ≠ .gt := by
  intro trans
  obtain ⟨left, right, outer⟩ := blurs_brink.order_eq
  exact trans (int 9007199254740993) (float brink) (int 9007199254740992) (.inr rfl) (.inr rfl)
    (.inr rfl) (by rw [left]; decide) (by rw [right]; decide) outer

end WindowQuery.Cell
