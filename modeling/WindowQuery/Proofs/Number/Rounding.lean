import WindowQuery.Proofs.Number.Bits

/-!
# Integers as doubles

Rounding an integer to the nearest double never exchanges two of them (`rank_ofInt_mono`), and up to
`2 ^ 53` in absolute value it keeps them apart (`rank_ofInt_lt`). Beyond, two integers may become
one double. The double of an integer is no NaN and no negative zero (`isNaN_ofInt`,
`toBits_ofInt_of_isZero`).
-/

namespace WindowQuery.Binary64

/-! ### Rounding a quotient -/

/-- A shift rounds down below a half, up above it, and to the even neighbour at it. -/
theorem shiftHalfEven_eq (n k : Nat) : shiftHalfEven n k =
    if 2 * (n % 2 ^ k) < 2 ^ k then n / 2 ^ k
    else if 2 ^ k < 2 * (n % 2 ^ k) then n / 2 ^ k + 1
    else n / 2 ^ k + n / 2 ^ k % 2 := by
  have rest : n - n / 2 ^ k * 2 ^ k = n % 2 ^ k := by
    have := Nat.div_add_mod' n (2 ^ k)
    omega
  rw [shiftHalfEven, Nat.shiftRight_eq_div_pow, Nat.shiftLeft_eq, Nat.one_shiftLeft, rest]

theorem le_shiftHalfEven (n k : Nat) : n / 2 ^ k ≤ shiftHalfEven n k := by
  rw [shiftHalfEven_eq]
  split_ifs <;> omega

theorem shiftHalfEven_le (n k : Nat) : shiftHalfEven n k ≤ n / 2 ^ k + 1 := by
  rw [shiftHalfEven_eq]
  split_ifs <;> omega

/-- Rounding keeps the order of integers. -/
theorem shiftHalfEven_mono {m n : Nat} (h : m ≤ n) (k : Nat) :
    shiftHalfEven m k ≤ shiftHalfEven n k := by
  have quotients : m / 2 ^ k ≤ n / 2 ^ k := Nat.div_le_div_right h
  rcases Nat.lt_or_eq_of_le quotients with hlt | heq
  · calc shiftHalfEven m k
      _ ≤ m / 2 ^ k + 1 := shiftHalfEven_le m k
      _ ≤ n / 2 ^ k := hlt
      _ ≤ shiftHalfEven n k := le_shiftHalfEven n k
  · -- with one quotient the rests decide
    have rests : m % 2 ^ k ≤ n % 2 ^ k := by
      have hm := Nat.div_add_mod m (2 ^ k)
      have hn := Nat.div_add_mod n (2 ^ k)
      rw [heq] at hm
      omega
    rw [shiftHalfEven_eq, shiftHalfEven_eq, heq]
    split_ifs <;> omega

/-! ### The significand of a natural number -/

/-- A number **scaled** to a significand: shifted so that its leading bit is the hidden one, and
rounded where bits are lost. -/
def scaled (n : Nat) : Nat :=
  if n.log2 ≤ 52 then n <<< (52 - n.log2) else shiftHalfEven n (n.log2 - 52)

theorem le_scaled {n : Nat} (hn : n ≠ 0) : hiddenBit ≤ scaled n := by
  have low : 2 ^ n.log2 ≤ n := Nat.log2_self_le hn
  rw [scaled]
  split
  case isTrue h =>
    rw [Nat.shiftLeft_eq]
    calc hiddenBit
      _ = 2 ^ n.log2 * 2 ^ (52 - n.log2) := by rw [← Nat.pow_add, Nat.add_sub_cancel' h]; rfl
      _ ≤ n * 2 ^ (52 - n.log2) := Nat.mul_le_mul_right _ low
  case isFalse h =>
    refine le_trans ((Nat.le_div_iff_mul_le (Nat.two_pow_pos _)).mpr ?_) (le_shiftHalfEven _ _)
    calc hiddenBit * 2 ^ (n.log2 - 52)
      _ = 2 ^ n.log2 := by
        rw [show hiddenBit = 2 ^ 52 from rfl, ← Nat.pow_add, Nat.add_sub_cancel' (by omega)]
      _ ≤ n := low

theorem scaled_lt {n : Nat} (h : n.log2 ≤ 52) : scaled n < 2 * hiddenBit := by
  rw [scaled, if_pos h, Nat.shiftLeft_eq]
  calc n * 2 ^ (52 - n.log2)
    _ < 2 ^ (n.log2 + 1) * 2 ^ (52 - n.log2) :=
      Nat.mul_lt_mul_of_pos_right Nat.lt_log2_self (Nat.two_pow_pos _)
    _ = 2 * hiddenBit := by
      rw [← Nat.pow_add, show n.log2 + 1 + (52 - n.log2) = 53 by omega]
      rfl

/-- Rounding may reach the next power of two, but not go beyond. -/
theorem scaled_le (n : Nat) : scaled n ≤ 2 * hiddenBit := by
  rcases Nat.lt_or_ge 52 n.log2 with h | h
  · have quotient : n / 2 ^ (n.log2 - 52) < 2 * hiddenBit := by
      rw [Nat.div_lt_iff_lt_mul (Nat.two_pow_pos _)]
      calc n
        _ < 2 ^ (n.log2 + 1) := Nat.lt_log2_self
        _ = 2 * hiddenBit * 2 ^ (n.log2 - 52) := by
          rw [show 2 * hiddenBit = 2 ^ 53 from rfl, ← Nat.pow_add]
          congr 1
          omega
    rw [scaled, if_neg (Nat.not_le.mpr h)]
    exact le_trans (shiftHalfEven_le _ _) quotient
  · exact Nat.le_of_lt (scaled_lt h)

/-- Among numbers with one leading bit. -/
theorem scaled_mono {m n : Nat} (htop : m.log2 = n.log2) (h : m ≤ n) : scaled m ≤ scaled n := by
  rw [scaled, scaled, htop]
  split
  · rw [Nat.shiftLeft_eq, Nat.shiftLeft_eq]
    exact Nat.mul_le_mul_right _ h
  · exact shiftHalfEven_mono h _

theorem log2_le_log2 {m n : Nat} (hm : m ≠ 0) (h : m ≤ n) : m.log2 ≤ n.log2 :=
  (Nat.le_log2 (by omega)).mpr (le_trans (Nat.log2_self_le hm) h)

/-! ### The magnitude of a natural number -/

theorem natMagnitude_eq {n : Nat} (hn : n ≠ 0) :
    natMagnitude n = min ((n.log2 + 1022) * hiddenBit + scaled n) infinityMagnitude := if_neg hn

/-- Numbers of up to 1024 bits are finite. -/
theorem natMagnitude_eq_of_log2_le {n : Nat} (hn : n ≠ 0) (htop : n.log2 ≤ 1023) :
    natMagnitude n = (n.log2 + 1022) * hiddenBit + scaled n := by
  rw [natMagnitude_eq hn, min_eq_left]
  calc (n.log2 + 1022) * hiddenBit + scaled n
    _ ≤ (1023 + 1022) * hiddenBit + 2 * hiddenBit :=
      Nat.add_le_add (Nat.mul_le_mul_right _ (Nat.add_le_add_right htop _)) (scaled_le n)
    _ = infinityMagnitude := rfl

theorem natMagnitude_le (n : Nat) : natMagnitude n ≤ infinityMagnitude := by
  rw [natMagnitude]
  split
  · exact Nat.zero_le _
  · exact min_le_right _ _

/-- A higher leading bit leaves room for any significand below it. -/
theorem room_of_log2_lt {m n : Nat} (h : m.log2 < n.log2) :
    (m.log2 + 1022) * hiddenBit + hiddenBit ≤ (n.log2 + 1022) * hiddenBit := by
  rw [← Nat.succ_mul]
  exact Nat.mul_le_mul_right _ (by omega)

/-- Greater integers round to doubles that are at least as great. -/
theorem natMagnitude_mono {m n : Nat} (h : m ≤ n) : natMagnitude m ≤ natMagnitude n := by
  rcases Nat.eq_zero_or_pos m with rfl | hm
  · exact Nat.zero_le _
  · have hn : n ≠ 0 := by omega
    rw [natMagnitude_eq hm.ne', natMagnitude_eq hn]
    refine min_le_min ?_ le_rfl
    rcases Nat.lt_or_eq_of_le (log2_le_log2 hm.ne' h) with hlt | heq
    · have below := scaled_le m
      have above := le_scaled hn
      have room := room_of_log2_lt hlt
      omega
    · rw [heq]
      exact Nat.add_le_add_left (scaled_mono heq h) _

theorem natMagnitude_pos {n : Nat} (hn : n ≠ 0) : 0 < natMagnitude n :=
  lt_of_lt_of_le (by decide) (natMagnitude_mono (Nat.one_le_iff_ne_zero.mpr hn))

/-- Up to `2 ^ 53` no bit is lost. -/
theorem natMagnitude_lt {m n : Nat} (h : m < n) (hn : n ≤ 2 ^ 53) :
    natMagnitude m < natMagnitude n := by
  have hpos : n ≠ 0 := by omega
  rcases Nat.eq_zero_or_pos m with rfl | hm
  · exact natMagnitude_pos hpos
  · have low : m.log2 ≤ 52 := Nat.le_of_lt_succ ((Nat.log2_lt hm.ne').mpr (by omega))
    have top : n.log2 < 54 := (Nat.log2_lt hpos).mpr (by omega)
    rw [natMagnitude_eq_of_log2_le hm.ne' (by omega), natMagnitude_eq_of_log2_le hpos (by omega)]
    rcases Nat.lt_or_eq_of_le (log2_le_log2 hm.ne' h.le) with hlt | heq
    · have below := scaled_lt low
      have above := le_scaled hpos
      have room := room_of_log2_lt hlt
      omega
    · rw [heq]
      refine Nat.add_lt_add_left ?_ _
      rw [scaled, scaled, if_pos low, if_pos (heq ▸ low), heq, Nat.shiftLeft_eq, Nat.shiftLeft_eq]
      exact Nat.mul_lt_mul_of_pos_right h (Nat.two_pow_pos _)

/-! ### The double of an integer -/

/-- The double of an integer has its sign and the magnitude of its absolute value. -/
theorem toNat_toBits_ofInt (i : Int) :
    (ofInt i).toBits.toNat = (if i < 0 then signBit else 0) + natMagnitude i.natAbs := by
  have small := natMagnitude_le i.natAbs
  have word {n : Nat} (hn : n < 2 ^ 64) (h : n % signBit ≤ infinityMagnitude) :
      (Float.ofBits (UInt64.ofNat n)).toBits.toNat = n := by
    have bits : (UInt64.ofNat n).toNat = n := UInt64.toNat_ofNat_of_lt' hn
    rw [toBits_ofBits (by rwa [bits]), bits]
  rw [ofInt, ofNat]
  rw [infinityMagnitude] at *
  rw [signBit] at *
  split
  · exact word (by omega) (by omega)
  · rw [word (by omega) (by omega), Nat.zero_add]

theorem magnitude_ofInt (i : Int) : magnitude (ofInt i) = natMagnitude i.natAbs := by
  have small := natMagnitude_le i.natAbs
  rw [magnitude_eq, toNat_toBits_ofInt]
  rw [infinityMagnitude] at *
  rw [signBit] at *
  split <;> omega

theorem isNegative_ofInt (i : Int) : isNegative (ofInt i) = decide (i < 0) := by
  have small := natMagnitude_le i.natAbs
  rw [Bool.eq_iff_iff, isNegative_iff, toNat_toBits_ofInt, decide_eq_true_eq]
  rw [infinityMagnitude] at *
  rw [signBit] at *
  split <;> omega

/-- An integer is never NaN as a double. -/
theorem isNaN_ofInt (i : Int) : isNaN (ofInt i) = false := by
  rw [isNaN, magnitude_ofInt]
  exact decide_eq_false (Nat.not_lt.mpr (natMagnitude_le _))

/-- Nor is it the negative zero. -/
theorem toBits_ofInt_of_isZero {i : Int} (h : isZero (ofInt i) = true) : (ofInt i).toBits = 0 := by
  rw [isZero, decide_eq_true_eq, magnitude_ofInt] at h
  have zero : i.natAbs = 0 := by
    by_contra hne
    exact (natMagnitude_pos hne).ne' h
  rw [Int.natAbs_eq_zero.mp zero]
  rfl

theorem toNat_rank_ofInt (i : Int) : (rank (ofInt i)).toNat =
    if i < 0 then signBit - natMagnitude i.natAbs else signBit + natMagnitude i.natAbs := by
  rw [toNat_rank, isNaN_ofInt, isNegative_ofInt, magnitude_ofInt]
  simp only [Bool.false_eq_true, if_false, decide_eq_true_eq]

/-- **Rounding an integer to a double is monotone.** -/
theorem rank_ofInt_mono {i j : Int} (h : i ≤ j) : rank (ofInt i) ≤ rank (ofInt j) := by
  rw [UInt64.le_iff_toNat_le, toNat_rank_ofInt, toNat_rank_ofInt]
  split
  case isTrue hi =>
    split
    case isTrue => exact Nat.sub_le_sub_left (natMagnitude_mono (by omega)) _
    case isFalse => exact le_trans (Nat.sub_le _ _) (Nat.le_add_right _ _)
  case isFalse hi =>
    rw [if_neg (by omega)]
    exact Nat.add_le_add_left (natMagnitude_mono (by omega)) _

/-- **Rounding is strict** on integers of up to 53 bits. -/
theorem rank_ofInt_lt {i j : Int} (h : i < j) (hi : -2 ^ 53 ≤ i) (hj : j ≤ 2 ^ 53) :
    rank (ofInt i) < rank (ofInt j) := by
  have small : natMagnitude i.natAbs < signBit := lt_of_le_of_lt (natMagnitude_le _) (by decide)
  rw [UInt64.lt_iff_toNat_lt, toNat_rank_ofInt, toNat_rank_ofInt]
  split
  case isTrue hneg =>
    split
    case isTrue =>
      have hlt : natMagnitude j.natAbs < natMagnitude i.natAbs :=
        natMagnitude_lt (by omega) (by omega)
      exact Nat.sub_lt_sub_left (lt_trans hlt small) hlt
    case isFalse =>
      have hpos : 0 < natMagnitude i.natAbs := natMagnitude_pos (by omega)
      omega
  case isFalse hneg =>
    rw [if_neg (by omega)]
    exact Nat.add_lt_add_left (natMagnitude_lt (by omega) (by omega)) _

end WindowQuery.Binary64
