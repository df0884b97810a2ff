/-!
# Doubles read through their bits

Order, equality and conversions of 64-bit floating-point numbers, all defined on the bit pattern
so that they can be reasoned about as integer arithmetic. Only `+`, `-` and `/` are taken from
`Float` itself.

* `rank` places every double on one line of 64-bit numbers: the two zeros together, NaN above
  infinity. `order` and `same` are comparison and equality of ranks, hence a total preorder and
  its equivalence.
* `ofInt` rounds an integer to the nearest double, ties to the even significand.
* `toInt64` truncates towards zero and saturates.
-/

namespace WindowQuery.Binary64

/-! ### The fields of the bit pattern -/

/-- The place value of the sign bit. -/
def signBit : Nat := 0x8000000000000000

/-- The place value of the leading significand bit that normal numbers leave out, and of the last
bit of the exponent field. -/
def hiddenBit : Nat := 0x0010000000000000

/-- The magnitude of infinity; every larger one is NaN. -/
def infinityMagnitude : Nat := 0x7ff0000000000000

/-- The bits of a double without the sign. -/
def unsignedBits (x : Float) : UInt64 := x.toBits &&& 0x7fffffffffffffff

/-- The **magnitude** of a double: its bits without the sign as a number. It grows with the
absolute value. -/
def magnitude (x : Float) : Nat := (unsignedBits x).toNat

/-- The sign bit is set. It is in negative zero. -/
def isNegative (x : Float) : Bool := decide (0x8000000000000000 ≤ x.toBits)

/-- Not a number, of either sign and with any payload. -/
def isNaN (x : Float) : Bool := decide (infinityMagnitude < magnitude x)

/-- Either infinity. -/
def isInfinite (x : Float) : Bool := decide (magnitude x = infinityMagnitude)

/-- Neither an infinity nor NaN. -/
def isFinite (x : Float) : Bool := decide (magnitude x < infinityMagnitude)

/-- Either zero. -/
def isZero (x : Float) : Bool := decide (magnitude x = 0)

/-- The integer `m` of `|x| = m * 2 ^ e`, with the leading bit that normal numbers leave out. -/
def significand (x : Float) : Nat :=
  if magnitude x < hiddenBit then magnitude x else hiddenBit + magnitude x % hiddenBit

/-- The exponent `e` of `|x| = m * 2 ^ e`. -/
def exponent (x : Float) : Int := (max 1 (magnitude x / hiddenBit) : Nat) - 1075

/-- The double without its sign. -/
def abs (x : Float) : Float := Float.ofBits (unsignedBits x)

/-- The quiet NaN that stands for all of them. -/
def nan : Float := Float.ofBits 0x7ff8000000000000

/-- The zero with its sign bit set. Every double that is added to it stays what it is, also
negative zero, which the other zero would turn positive. -/
def negativeZero : Float := Float.ofBits 0x8000000000000000

/-! ### Order -/

/-- The rank of both zeros. Negative doubles rank below it. -/
def zeroRank : UInt64 := 0x8000000000000000

/-- The **rank** of a double: signed magnitude counted from the common rank of the zeros, and one
common rank above infinity for NaN. -/
def rank (x : Float) : UInt64 :=
  if isNaN x then 0xffffffffffffffff
  else if isNegative x then zeroRank - unsignedBits x
  else zeroRank + unsignedBits x

/-- Numeric order with NaN equal to itself and above every number. -/
def order (x y : Float) : Ordering := compare (rank x) (rank y)

/-- Numeric equality with NaN equal to itself. -/
def same (x y : Float) : Bool := rank x == rank y

/-- Less than zero in numeric order. Neither NaN nor a zero is. -/
def isBelowZero (x : Float) : Bool := decide (rank x < zeroRank)

@[simp] theorem order_self (x : Float) : order x x = .eq := by simp [order]

theorem order_swap (x y : Float) : (order x y).swap = order y x :=
  (Std.OrientedOrd.eq_swap (α := UInt64)).symm

theorem order_isLE_trans {x y z : Float} (hxy : (order x y).isLE) (hyz : (order y z).isLE) :
    (order x z).isLE := Std.TransOrd.isLE_trans (α := UInt64) hxy hyz

theorem transCmp_order : Std.TransCmp order where
  eq_swap := Std.OrientedOrd.eq_swap (α := UInt64)
  isLE_trans := order_isLE_trans

theorem same_iff {x y : Float} : same x y = true ↔ order x y = .eq := by simp [same, order]

/-! ### From integers -/

/-- `n / 2 ^ k` rounded to the nearest integer, a tie to the even one. -/
def shiftHalfEven (n k : Nat) : Nat :=
  let quotient := n >>> k
  let rest := n - quotient <<< k
  if 2 * rest < 1 <<< k then quotient
  else if 1 <<< k < 2 * rest then quotient + 1
  else quotient + quotient % 2

/-- The magnitude of the double nearest to `n`. A significand that rounds up to `2 ^ 53` carries
into the exponent field by itself. -/
def natMagnitude (n : Nat) : Nat :=
  if n = 0 then 0
  else
    let top := n.log2
    let scaled := if top ≤ 52 then n <<< (52 - top) else shiftHalfEven n (top - 52)
    min ((top + 1022) * hiddenBit + scaled) infinityMagnitude

/-- The double nearest to a natural number. -/
def ofNat (n : Nat) : Float := Float.ofBits (UInt64.ofNat (natMagnitude n))

/-- The double nearest to an integer, ties to the even significand. -/
def ofInt (i : Int) : Float :=
  if i < 0 then Float.ofBits (UInt64.ofNat (signBit + natMagnitude i.natAbs)) else ofNat i.natAbs

/-! ### To integers -/

/-- The integer part of `|x|`. -/
def integerPart (x : Float) : Nat :=
  if 0 ≤ exponent x then significand x <<< (exponent x).toNat
  else significand x >>> (-exponent x).toNat

/-- Truncation towards zero. What lies outside the 64-bit range goes to its nearer end and NaN
to zero. -/
def toInt64 (x : Float) : Int64 :=
  if isNaN x then 0
  else Int64.ofIntClamp (if isNegative x then -(integerPart x : Int) else integerPart x)

end WindowQuery.Binary64
