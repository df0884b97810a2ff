import WindowQuery.Cell.Fingerprint
import WindowQuery.Cell.Hashing
import WindowQuery.Proofs.Number.Rounding

/-!
# Equality, hashing and comparison of cells

Equal cells feed a hasher the same, and on cells that can be compared equality is what comparison
calls equal (`Cell.same_coherent`). Only between unrelated sorts, a text and a number say, do the
two differ: such cells compare equal and are not.

What is hashed of a double stands for the number it is (`Binary64.hashedBits_eq_iff`), and the
double of an integer goes in unchanged because it is neither NaN nor the negative zero
(`Binary64.hashedBits_ofInt`). So cells feed the same exactly when they have one fingerprint
(`Cell.feed_eq_iff`).
-/

namespace WindowQuery

namespace Binary64

variable {x y : Float}

theorem isNaN_congr (h : x.toBits = y.toBits) : isNaN x = isNaN y := by
  rw [isNaN, isNaN, magnitude_eq, magnitude_eq, h]

theorem isZero_congr (h : x.toBits = y.toBits) : isZero x = isZero y := by
  rw [isZero, isZero, magnitude_eq, magnitude_eq, h]

/-- Only NaN is hashed as NaN. -/
theorem hashedBits_eq_nan_iff : hashedBits x = nan.toBits ↔ isNaN x = true := by
  rw [hashedBits]
  split
  case isTrue h => exact iff_of_true rfl h
  case isFalse h =>
    refine iff_of_false ?_ h
    split
    case isTrue => decide
    case isFalse => exact fun heq => h ((isNaN_congr heq).trans (by decide))

/-- **A number is hashed** by what makes it the number it is. -/
theorem hashedBits_eq_iff : hashedBits x = hashedBits y ↔ same x y = true := by
  rw [same_iff_bits]
  cases hx : isNaN x with
  | true =>
    rw [hashedBits_eq_nan_iff.mpr hx, eq_comm, hashedBits_eq_nan_iff]
    simp
  | false =>
    cases hy : isNaN y with
    | true =>
      rw [hashedBits_eq_nan_iff.mpr hy, hashedBits_eq_nan_iff, hx]
      simp
    | false =>
      simp only [hashedBits, hx, hy, Bool.false_eq_true, if_false, and_self, false_or, true_and]
      -- the bits of a zero are those of no other number, nor is its pattern hashed for another
      have zero {z : Float} (h : z.toBits = 0) : isZero z = true := by
        rw [isZero, magnitude_eq, h]
        rfl
      split <;> split
      case isTrue.isTrue hzx hzy => exact iff_of_true rfl (.inr ⟨hzx, hzy⟩)
      case isTrue.isFalse hzx hzy =>
        refine iff_of_false (fun h => hzy (zero h.symm)) ?_
        rintro (h | ⟨-, h⟩)
        · exact hzy ((isZero_congr h).symm.trans hzx)
        · exact hzy h
      case isFalse.isTrue hzx hzy =>
        refine iff_of_false (fun h => hzx (zero h)) ?_
        rintro (h | ⟨h, -⟩)
        · exact hzx ((isZero_congr h).trans hzy)
        · exact hzx h
      case isFalse.isFalse hzx hzy => simp [hzx]

theorem hashedBits_ofInt (i : Int) : hashedBits (ofInt i) = (ofInt i).toBits := by
  rw [hashedBits, isNaN_ofInt]
  split
  case isTrue h => cases h
  case isFalse =>
    split
    case isTrue h => exact (toBits_ofInt_of_isZero h).symm
    case isFalse => rfl

end Binary64

namespace Cell

/-- Cells feed a hasher the same exactly when they have one fingerprint. -/
theorem feed_eq_iff {a b : Cell} : a.feed = b.feed ↔ a.fingerprint = b.fingerprint := by
  have number {x y : Float} :
      Binary64.hashedBits x = Binary64.hashedBits y ↔ Binary64.rank x = Binary64.rank y :=
    Binary64.hashedBits_eq_iff.trans beq_iff_eq
  have flag {b c : Bool} :
      (if b = true then 1 else 0 : UInt8) = (if c = true then 1 else 0) ↔ b = c := by
    cases b <;> cases c <;> decide
  cases a <;> cases b <;> simp [feed, fingerprint, ← Binary64.hashedBits_ofInt, number, flag]

/-- Equality is what comparison calls equal, on cells that can be compared. -/
theorem same_iff_order {a b : Cell} (h : a.kind = b.kind ∨
    (a.isNumeric = true ∧ b.isNumeric = true) ∨ a.isNull = true ∨ b.isNull = true) :
    same a b = true ↔ order a b = .eq := by
  cases a <;> cases b <;>
    simp_all [same, order, kind, isNumeric, isNull, Binary64.same_iff, Int64.toInt_inj]

/-- **Equality, hashing and comparison agree.** Equality is reflexive and symmetric, and equal cells
feed a hasher the same. Cells of one sort, two numbers, and NULL with any cell are equal exactly
when they compare equal. Exchanging any two cells reverses their order. -/
theorem same_coherent (a b : Cell) :
    same a a = true ∧ same a b = same b a ∧
      (same a b = true → a.feed = b.feed ∧ a.fingerprint = b.fingerprint) ∧
      (a.kind = b.kind ∨ (a.isNumeric = true ∧ b.isNumeric = true) ∨ a.isNull = true ∨
        b.isNull = true → (same a b = true ↔ order a b = .eq)) ∧
      order b a = (order a b).swap :=
  ⟨same_self a, same_comm a b,
    fun h => ⟨feed_eq_iff.mpr (fingerprint_eq_of_same h), fingerprint_eq_of_same h⟩,
    same_iff_order, (order_swap a b).symm⟩

/-- The integer zero equals the negative zero of doubles and is hashed like it. -/
theorem same_coherent_zero :
    same (int 0) (float Binary64.negativeZero) = true ∧
      (int 0).feed = (float Binary64.negativeZero).feed ∧ (int 0).isNumeric = true ∧
      (float Binary64.negativeZero).isNumeric = true ∧
      order (int 0) (float Binary64.negativeZero) = .eq := by
  obtain ⟨-, -, hashed, compared, -⟩ := same_coherent (int 0) (float Binary64.negativeZero)
  have equal : same (int 0) (float Binary64.negativeZero) = true := by decide
  exact ⟨equal, (hashed equal).1, rfl, rfl, (compared (.inr (.inl ⟨rfl, rfl⟩))).mp equal⟩

end Cell

end WindowQuery
