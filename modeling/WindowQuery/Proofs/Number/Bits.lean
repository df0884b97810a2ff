import Mathlib
import WindowQuery.Number.Binary64

/-!
# Doubles and their bits

A double is made from a pattern of 64 bits and read back as the same pattern, unless it is NaN, of
which there is only one (`toBits_ofBits`). The sign and the magnitude make up the pattern
(`toNat_toBits`) and decide the rank (`toNat_rank`). Two doubles are therefore the same number when
both are NaN, or neither is and their bits agree or both are zeros (`same_iff_bits`).
-/

namespace WindowQuery.Binary64

/-! ### Patterns -/

section

open Float.Model
open Float.Model.UnpackedFloat hiding unpack pack

variable {bits : BitVec Format.binary64.numBits}

/-- The three fields of a pattern, put together again. -/
theorem packComponents_fields {e : BitVec 11} {m : BitVec 52} (he : unpackExponent bits = e)
    (hm : unpackMantissa bits = m) :
    packComponents Format.binary64 (Sign.ofBitVec (unpackSign bits)) e m = bits := by
  have sign (b : BitVec 1) : (Sign.ofBitVec b).toBitVec = b := by
    revert b
    decide
  rw [packComponents, sign, ← he, ← hm]
  change (bits.extractLsb' 63 1 ++ bits.extractLsb' 52 11) ++ bits.extractLsb' 0 52 = bits
  rw [BitVec.extractLsb'_append_extractLsb'_eq_extractLsb' (show 63 = 52 + 11 from rfl),
    BitVec.extractLsb'_append_extractLsb'_eq_extractLsb' (show 52 = 0 + 52 from rfl)]
  exact BitVec.extractLsb'_eq_self

theorem toNat_one_append (m : BitVec 52) : (1#1 ++ m).toNat = 2 ^ 52 + m.toNat := by
  rw [BitVec.toNat_append, ← Nat.shiftLeft_add_eq_or_of_lt m.isLt]
  rfl

/-- A pattern that is no NaN is read and written again as it is. -/
theorem pack_unpack (h : unpackExponent bits = -1#_ → unpackMantissa bits = 0#_) :
    UnpackedFloat.pack Format.binary64 (UnpackedFloat.unpack Format.binary64 bits) = bits := by
  have hm : (unpackMantissa bits).toNat < 2 ^ 52 := (unpackMantissa bits).isLt
  have he : (unpackExponent bits).toNat < 2 ^ 11 := (unpackExponent bits).isLt
  have kept {w : Nat} (b : BitVec w) : BitVec.ofNat w b.toNat = b := by
    rw [BitVec.ofNat_toNat, BitVec.setWidth_eq]
  rw [UnpackedFloat.unpack]
  split
  case isTrue top =>
    rw [if_pos (h top)]
    exact packComponents_fields top (h top)
  case isFalse low =>
    split
    case isTrue bottom =>
      split
      case isTrue zero => exact packComponents_fields bottom zero
      case isFalse positive =>
        -- a subnormal number lacks the leading bit
        have leading : ¬ (unpackMantissa bits).toNat.log2 + 1 = Format.binary64.mantissaBits := by
          have hpos : (unpackMantissa bits).toNat ≠ 0 := fun heq =>
            positive (BitVec.eq_of_toNat_eq heq)
          have := (Nat.log2_lt hpos).mpr hm
          change ¬ _ + 1 = 53
          omega
        rw [bottom, UnpackedFloat.pack]
        dsimp only
        rw [if_neg (by decide), if_neg leading, kept]
        exact packComponents_fields bottom rfl
    case isFalse =>
      have leading :
          (1#1 ++ unpackMantissa bits).toNat.log2 + 1 = Format.binary64.mantissaBits := by
        refine congrArg (· + 1) ((Nat.log2_eq_iff ?_).mpr ?_) <;> rw [toNat_one_append] <;> omega
      have biased : ((unpackExponent bits).toNat -
          ((Format.binary64.exponentBias : Int) + (52 : Nat)) +
            (Format.binary64.exponentBias : Int) + (52 : Nat)).toNat =
              (unpackExponent bits).toNat := by omega
      have small : (unpackExponent bits).toNat ≠ 2047 := fun heq =>
        low (BitVec.eq_of_toNat_eq heq)
      have mantissa : BitVec.ofNat 52 (1#1 ++ unpackMantissa bits).toNat = unpackMantissa bits := by
        refine BitVec.eq_of_toNat_eq ?_
        rw [BitVec.toNat_ofNat, toNat_one_append]
        omega
      rw [UnpackedFloat.pack]
      dsimp only
      rw [biased, if_neg (by change ¬ 2048 ≤ _; omega), if_pos leading, mantissa, kept]
      exact packComponents_fields rfl rfl

/-- **Bits that are no NaN are kept.** -/
theorem toBits_ofBits {bits : UInt64} (h : bits.toNat % signBit ≤ infinityMagnitude) :
    (Float.ofBits bits).toBits = bits := by
  refine congrArg UInt64.ofBitVec (pack_unpack fun top => BitVec.eq_of_toNat_eq ?_)
  have top : bits.toNat >>> 52 % 2 ^ 11 = 2047 := congrArg BitVec.toNat top
  change bits.toNat >>> 0 % 2 ^ 52 = 0
  rw [signBit, infinityMagnitude] at h
  rw [Nat.shiftRight_eq_div_pow] at top ⊢
  omega

end

/-! ### Sign and magnitude -/

theorem magnitude_eq (x : Float) : magnitude x = x.toBits.toNat % signBit := by
  rw [magnitude, unsignedBits, UInt64.toNat_and]
  exact Nat.and_two_pow_sub_one_eq_mod x.toBits.toNat 63

theorem magnitude_lt (x : Float) : magnitude x < signBit := by
  rw [magnitude_eq]
  exact Nat.mod_lt _ (by decide)

theorem isNegative_iff {x : Float} : isNegative x = true ↔ signBit ≤ x.toBits.toNat := by
  rw [isNegative, decide_eq_true_eq, UInt64.le_iff_toNat_le]
  rfl

/-- The sign bit and the magnitude make up the bits. -/
theorem toNat_toBits (x : Float) :
    x.toBits.toNat = (if isNegative x then signBit else 0) + magnitude x := by
  have hlt := x.toBits.toNat_lt
  rw [magnitude_eq]
  simp only [isNegative_iff]
  rw [signBit]
  split <;> omega

/-- The **rank** counts the magnitude up or down from that of the zeros. -/
theorem toNat_rank (x : Float) : (rank x).toNat =
    if isNaN x then 2 * signBit - 1
    else if isNegative x then signBit - magnitude x else signBit + magnitude x := by
  have hlt := magnitude_lt x
  rw [magnitude] at *
  rw [rank]
  split
  case isTrue => rfl
  case isFalse =>
    split
    case isTrue =>
      rw [UInt64.toNat_sub_of_le _ _ (UInt64.le_iff_toNat_le.mpr (Nat.le_of_lt hlt))]
      rfl
    case isFalse =>
      have room : zeroRank.toNat + (unsignedBits x).toNat < 2 ^ 64 := Nat.add_lt_add_left hlt _
      rw [UInt64.toNat_add, Nat.mod_eq_of_lt room]
      rfl

/-- No number has the rank that all NaN share, nor a higher one. -/
theorem isNaN_iff_rank {x : Float} : isNaN x = true ↔ rank x = 0xffffffffffffffff := by
  rw [← UInt64.toNat_inj, toNat_rank]
  split
  case isTrue h => exact iff_of_true h rfl
  case isFalse h =>
    refine iff_of_false h ?_
    rw [isNaN, decide_eq_true_eq, infinityMagnitude] at h
    change ¬ _ = 0xffffffffffffffff
    rw [signBit]
    split <;> omega

/-- **Equality of doubles**, read off the bits. -/
theorem same_iff_bits {x y : Float} : same x y = true ↔
    (isNaN x = true ∧ isNaN y = true) ∨
      (isNaN x = false ∧ isNaN y = false ∧
        (x.toBits = y.toBits ∨ isZero x = true ∧ isZero y = true)) := by
  rw [same, beq_iff_eq]
  cases hx : isNaN x with
  | true =>
    rw [isNaN_iff_rank.mp hx, eq_comm, ← isNaN_iff_rank]
    simp
  | false =>
    cases hy : isNaN y with
    | true =>
      rw [isNaN_iff_rank.mp hy, ← isNaN_iff_rank, hx]
      simp
    | false =>
      have zero {z : Float} : isZero z = true ↔ magnitude z = 0 := decide_eq_true_iff
      have hltx := magnitude_lt x
      have hlty := magnitude_lt y
      rw [← UInt64.toNat_inj, ← UInt64.toNat_inj, toNat_rank, toNat_rank, toNat_toBits,
        toNat_toBits, hx, hy, zero, zero]
      simp only [Bool.false_eq_true, if_false, and_self, false_or, true_and]
      rw [signBit] at *
      split <;> split <;> omega

end WindowQuery.Binary64
