import WindowQuery.Number.Binary64

/-!
# The shortest decimal that reads back

A positive double stands for every real that rounds to it: an interval around its value, closed
when the significand is even. `shortest` finds the decimal with the fewest digits inside that
interval, and among those the nearest to the value.

The search is exact. On the grid of decimals with a given last place only the two neighbours of
the value can be nearest, so each digit count costs two comparisons of naturals.
-/

namespace WindowQuery

/-- The decimal `coefficient * 10 ^ exponent`. -/
structure Decimal where
  coefficient : Nat
  exponent : Int
deriving DecidableEq, Repr

namespace Decimal

/-- How many decimal digits `n` has; none for zero. The least `j` with `n < 10 ^ j`. -/
def digitCount (n : Nat) : Nat := if n = 0 then 0 else (Nat.toDigits 10 n).length

/-- The reals that round to one double, in units of `2 ^ unit`: from `low` to `high` around
`value`, both ends included when `closed`. -/
structure Basin where
  value : Nat
  low : Nat
  high : Nat
  unit : Int
  closed : Bool
deriving DecidableEq, Repr

namespace Basin

/-- The basin of a finite positive double. Below a power of two the doubles lie twice as dense,
so there the lower half-gap is half as wide. -/
def ofDouble (x : Float) : Basin :=
  let m := Binary64.significand x
  let narrow := m = Binary64.hiddenBit ∧ 2 * Binary64.hiddenBit ≤ Binary64.magnitude x
  { value := 4 * m
    low := if narrow then 4 * m - 1 else 4 * m - 2
    high := 4 * m + 2
    unit := Binary64.exponent x - 2
    closed := m % 2 == 0 }

/-- What a coefficient at `10 ^ place` is multiplied by to be compared in exact naturals. -/
def decimalScale (b : Basin) (place : Int) : Nat := Nat.pow 10 place.toNat <<< (-b.unit).toNat

/-- What a number of units is multiplied by to be compared in exact naturals. -/
def binaryScale (b : Basin) (place : Int) : Nat := Nat.pow 10 (-place).toNat <<< b.unit.toNat

/-- Whether `coefficient * 10 ^ place` rounds to the double. -/
def reads (b : Basin) (coefficient : Nat) (place : Int) : Bool :=
  let point := coefficient * b.decimalScale place
  let low := b.low * b.binaryScale place
  let high := b.high * b.binaryScale place
  if b.closed then decide (low ≤ point ∧ point ≤ high) else decide (low < point ∧ point < high)

/-- The coefficient at `10 ^ place` that reads back and is nearest to the value, the greater of
two equally near. -/
def nearest? (b : Basin) (place : Int) : Option Nat :=
  let scale := b.decimalScale place
  let value := b.value * b.binaryScale place
  let below := value / scale
  let upper := 2 * (value - below * scale) ≥ scale
  match b.reads below place, b.reads (below + 1) place with
  | true, true => some (if upper then below + 1 else below)
  | true, false => some below
  | false, true => some (below + 1)
  | false, false => none

/-- The `p` with `10 ^ (p - 1) ≤ value < 10 ^ p`. -/
def leadingPlace (b : Basin) : Int :=
  let numerator := b.value * b.binaryScale 0
  let denominator := b.decimalScale 0
  if denominator ≤ numerator then digitCount (numerator / denominator)
  else 1 - digitCount ((denominator - 1) / numerator)

end Basin

/-- Drops the zeros at the end of the coefficient. There are at most `fuel` of them. -/
def stripZeros : Nat → Decimal → Decimal
  | 0, d => d
  | fuel + 1, d =>
    if d.coefficient ≠ 0 ∧ d.coefficient % 10 = 0 then
      stripZeros fuel ⟨d.coefficient / 10, d.exponent + 1⟩
    else d

/-- The **shortest** decimal that reads back as the finite positive double `x`. Seventeen digits
always suffice. -/
def shortest (x : Float) : Decimal :=
  let basin := Basin.ofDouble x
  let top := basin.leadingPlace
  let found := (List.range 17).findSome? fun (i : Nat) =>
    let place := top - (i + 1 : Nat)
    (basin.nearest? place).map fun c => Decimal.mk c place
  match found with
  | some d => stripZeros 18 d
  | none => ⟨0, 0⟩

/-! ### Writing a decimal -/

/-- Which decimals are written positionally, by the place of their leading digit: those within
the bounds, or all of them. The others get a power of ten. -/
structure Layout where
  positional : Option (Int × Int)

/-- A coefficient with a decimal point and the zeros it takes. -/
def writePositional (d : Decimal) : String :=
  let digits := Nat.toDigits 10 d.coefficient
  let point : Int := digits.length + d.exponent
  if 0 ≤ d.exponent then String.ofList (digits ++ List.replicate d.exponent.toNat '0')
  else if 0 < point then
    String.ofList (digits.take point.toNat ++ '.' :: digits.drop point.toNat)
  else String.ofList ('0' :: '.' :: List.replicate (-point).toNat '0' ++ digits)

/-- One digit before the decimal point, and a power of ten behind the letter `e`. -/
def writeScientific (d : Decimal) : String :=
  let digits := Nat.toDigits 10 d.coefficient
  let power : Int := digits.length + d.exponent - 1
  let mantissa := match digits with
    | [] => []
    | [c] => [c]
    | c :: rest => c :: '.' :: rest
  String.ofList mantissa ++ "e" ++ toString power

/-- A nonzero decimal in a layout. -/
def write (layout : Layout) (d : Decimal) : String :=
  let place : Int := (Nat.toDigits 10 d.coefficient).length + d.exponent
  match layout.positional with
  | none => d.writePositional
  | some (least, greatest) =>
    if least ≤ place ∧ place ≤ greatest then d.writePositional else d.writeScientific

/-- The text of a double: its shortest decimal in the layout, a minus sign also for negative
zero, and words for what is not finite. -/
def textOfDouble (layout : Layout) (x : Float) : String :=
  if Binary64.isNaN x then "NaN"
  else
    let sign := if Binary64.isNegative x then "-" else ""
    if Binary64.isInfinite x then sign ++ "inf"
    else if Binary64.isZero x then sign ++ "0"
    else sign ++ (shortest x).write layout

end Decimal

end WindowQuery
