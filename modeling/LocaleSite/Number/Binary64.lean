/-!
# Binary floating point numbers

A `Binary64` is a finite number `± significand · 2 ^ exponent` of the IEEE 754 double format.
`Binary64.ofDecimal` takes a decimal text's digits and power of ten to the nearest such number,
a tie going to the even significand, and `Binary64.shortest` goes back: the fewest digits that
read back as the number, and of those the nearest to it. All arithmetic is exact.
-/

namespace LocaleSite

/-- A finite double: `significand * 2 ^ exponent`, negated if `negative`. -/
structure Binary64 where
  negative : Bool
  significand : Nat
  exponent : Int
deriving DecidableEq, Repr

/-- Decimal digits `digits` scaled by a power of ten: `digits * 10 ^ scale`. -/
structure ScaledDigits where
  digits : Nat
  scale : Int
deriving DecidableEq, Repr

namespace Binary64

/-- The quotient rounded to the nearest natural number, a tie to the even one. -/
def roundedQuotient (numerator denominator : Nat) : Nat :=
  let floor := numerator / denominator
  let twice := 2 * (numerator % denominator)
  if twice < denominator then floor
  else if denominator < twice then floor + 1
  else if floor % 2 = 0 then floor
  else floor + 1

/-- The number of decimal digits of a natural number, one for zero. -/
def decimalLength (n : Nat) : Nat := (Nat.toDigits 10 n).length

/-- Least exponent of the format. -/
def minExponent : Int := -1074

/-- Bits of a normal significand. -/
def precision : Nat := 53

/-- The significand and exponent nearest to a positive fraction; none above the finite range. -/
def ofFraction (negative : Bool) (numerator denominator : Nat) : Option Binary64 :=
  let estimate : Int := (Nat.log2 numerator : Int) - Nat.log2 denominator - precision
  let scaled (exponent : Int) : Nat × Nat :=
    if 0 ≤ exponent then (numerator, denominator * Nat.pow 2 exponent.toNat)
    else (numerator * Nat.pow 2 (-exponent).toNat, denominator)
  let fits (exponent : Int) : Bool :=
    let (top, bottom) := scaled exponent
    top < bottom * Nat.pow 2 precision
  let least := max estimate minExponent
  let exponent := if fits least then least else if fits (least + 1) then least + 1 else least + 2
  let (top, bottom) := scaled exponent
  let rounded := roundedQuotient top bottom
  let result : Binary64 :=
    if rounded < Nat.pow 2 precision then ⟨negative, rounded, exponent⟩
    else ⟨negative, rounded / 2, exponent + 1⟩
  if result.exponent ≤ 971 then some result else none

/-- The number nearest to `digits * 10 ^ scale`; none above the finite range. -/
def ofDecimal (negative : Bool) (decimal : ScaledDigits) : Option Binary64 :=
  if decimal.digits = 0 then some ⟨negative, 0, 0⟩
  else
    let magnitude : Int := decimalLength decimal.digits + decimal.scale
    if 400 < magnitude then none
    else if magnitude < -400 then some ⟨negative, 0, 0⟩
    else if 0 ≤ decimal.scale then
      ofFraction negative (decimal.digits * Nat.pow 10 decimal.scale.toNat) 1
    else ofFraction negative decimal.digits (Nat.pow 10 (-decimal.scale).toNat)

/-- The digits of a grid `10 ^ scale` that lie nearest to the number among its two neighbours on
the grid and read back as it. All quantities are quarters of a unit in the last place, as
fractions over one denominator. -/
def onGrid? (x : Binary64) (scale : Int) : Option Nat :=
  let atBoundary := x.significand = Nat.pow 2 (precision - 1) && decide (minExponent < x.exponent)
  let quarter (count : Nat) : Nat × Nat :=
    let up := if 2 ≤ x.exponent then Nat.pow 2 (x.exponent - 2).toNat else 1
    let down := if 2 ≤ x.exponent then 1 else Nat.pow 2 (2 - x.exponent).toNat
    if 0 ≤ scale then (count * up, down * Nat.pow 10 scale.toNat)
    else (count * up * Nat.pow 10 (-scale).toNat, down)
  let (value, unit) := quarter (4 * x.significand)
  let (low, _) := quarter (4 * x.significand - if atBoundary then 1 else 2)
  let (high, _) := quarter (4 * x.significand + 2)
  let inside (digits : Nat) : Bool :=
    if x.significand % 2 = 0 then low ≤ digits * unit && digits * unit ≤ high
    else low < digits * unit && digits * unit < high
  let below := value / unit
  let above := below + 1
  match inside below && below != 0, inside above with
  | true, true =>
      some (if value - below * unit ≤ above * unit - value then below else above)
  | true, false => some below
  | false, true => some above
  | false, false => none

/-- The power of ten just above a positive number, found downwards from one known to be above. -/
def decimalMagnitude (x : Binary64) : Int :=
  let whole := x.significand * Nat.pow 2 x.exponent.toNat
  let scaled := x.significand * Nat.pow 10 400 / Nat.pow 2 (-x.exponent).toNat
  if 0 ≤ x.exponent then decimalLength whole else (decimalLength scaled : Int) - 400

/-- The first of the grids from `count` digits upwards with a point that reads back. -/
def shortestFrom (x : Binary64) (magnitude : Int) (count : Nat) : Nat → ScaledDigits
  | 0 => ⟨0, 0⟩
  | more + 1 =>
      let scale := magnitude - count
      match onGrid? x scale with
      | some digits => ⟨digits, scale⟩
      | none => shortestFrom x magnitude (count + 1) more

/-- Strip the zeros at the end of the digits, at most `count` of them. -/
def trimZeros : Nat → ScaledDigits → ScaledDigits
  | 0, decimal => decimal
  | count + 1, decimal =>
      if decimal.digits ≠ 0 && decimal.digits % 10 = 0 then
        trimZeros count ⟨decimal.digits / 10, decimal.scale + 1⟩
      else decimal

/-- The fewest decimal digits that read back as the number, nearest to it among those. -/
def shortest (x : Binary64) : ScaledDigits :=
  if x.significand = 0 then ⟨0, 0⟩
  else trimZeros 20 (shortestFrom x (decimalMagnitude x) 1 20)

end Binary64

end LocaleSite
