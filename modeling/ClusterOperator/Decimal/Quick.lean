import ClusterOperator.Decimal.Layout
import ClusterOperator.Double

/-!
# A short decimal of a double, quickly

The interval of the reals that round to a double is scaled by a power of ten in
64-bit arithmetic, and the digits of its upper end are taken until what is left
of them falls into the interval. The interval is made smaller by a unit on both
sides, which makes up for the rounding, so the digits always read back. They are
not always the fewest, nor the nearest.
-/

namespace ClusterOperator.Decimal.Quick

/-- `significand * 2 ^ exponent`, with a significand of 64 bits. -/
structure Wide where
  significand : Nat
  exponent : Int
  deriving DecidableEq, Repr

namespace Wide

/-- Shifts the significand up until its highest bit is set. -/
def normal (significand : Nat) (exponent : Int) : Wide :=
  let shift := 63 - significand.log2
  ⟨significand * 2 ^ shift, exponent - shift⟩

/-- The upper half of the product, rounded. -/
def mul (x y : Wide) : Wide :=
  ⟨(x.significand * y.significand + 2 ^ 63) / 2 ^ 64, x.exponent + y.exponent + 64⟩

/-- The nearest to `10 ^ e`. -/
def tenPower (e : Int) : Wide :=
  let (num, den) := if 0 ≤ e then (10 ^ e.toNat, 1) else (1, 10 ^ (-e).toNat)
  -- the exponent that leaves 64 bits, or one more
  let guess : Int := num.log2 - den.log2 - 64
  let bits (k : Int) : Nat :=
    if 0 ≤ k then (2 * num + den * 2 ^ k.toNat) / (2 * den * 2 ^ k.toNat)
    else (2 * num * 2 ^ (-k).toNat + den) / (2 * den)
  if bits guess < 2 ^ 64 then ⟨bits guess, guess⟩ else ⟨bits (guess + 1), guess + 1⟩

end Wide

/-- The power of ten, one in eight, that brings `2 ^ exponent` near to one. -/
def scaleOf (exponent : Int) : Int :=
  -- the decimal logarithm of two, and the quotient rounded up
  let steps := -((61 + exponent) * 30102999566398114 / 10 ^ 17) + 347
  (steps / 8 + 1) * 8 - 348

/-- How far the digits have got, counted in `2 ^ -fraction`. -/
structure Cut where
  digits : Nat
  /-- From what is written down to the lower end of the interval. -/
  width : Nat
  /-- From what is written up to the upper end. -/
  rest : Nat
  /-- From the value up to the upper end. -/
  gap : Nat
  /-- What one more in the last digit is. -/
  unit : Nat

/-- Takes the last digit down while that brings it nearer to the value and leaves
it in the interval. -/
def Cut.adjust : (most : Nat) → Cut → Nat
  | 0, c => c.digits
  | most + 1, c =>
    let next := c.rest + c.unit
    if c.rest < c.gap ∧ next ≤ c.width ∧ (next < c.gap ∨ next - c.gap < c.gap - c.rest) then
      adjust most { c with digits := c.digits - 1, rest := next }
    else c.digits

/-- Digits after the point, with the number of places taken so far. Beyond eight
places the last digit stays as it is. -/
def afterPoint (one gap : Nat) :
    (most : Nat) → (digits places width rest : Nat) → Scaled
  | 0, digits, places, _, _ => ⟨digits, -places⟩
  | most + 1, digits, places, width, rest =>
    let digits := digits * 10 + 10 * rest / one
    let rest := 10 * rest % one
    let width := 10 * width
    let places := places + 1
    if rest < width then
      ⟨Cut.adjust 10 ⟨digits, width, rest, if places < 9 then gap * 10 ^ places else 0, one⟩,
        -places⟩
    else afterPoint one gap most digits places width rest

/-- Digits before the point, down to the place `10 ^ left`. -/
def beforePoint (one gap width rest whole left : Nat) : Scaled :=
  let unit := 10 ^ left
  let cut := whole % unit * one + rest
  if cut ≤ width then ⟨Cut.adjust 10 ⟨whole / unit, width, cut, gap, unit * one⟩, left⟩
  else
    match left with
    | 0 => afterPoint one gap 20 whole 0 width rest
    | left + 1 => beforePoint one gap width rest whole left

/-- The digits of a double other than zero. -/
def digits (x : Double) : Scaled :=
  let exponent : Int := x.place - 1074
  let upper := Wide.normal (2 * x.mantissa + 1) (exponent - 1)
  -- where the spacing of doubles doubles, the reals below are half as many
  let (below, belowAt) :=
    if x.mantissa = 2 ^ 52 then (4 * x.mantissa - 1, exponent - 2)
    else (2 * x.mantissa - 1, exponent - 1)
  let lower : Wide := ⟨below * 2 ^ (belowAt - upper.exponent).toNat, upper.exponent⟩
  let scale := scaleOf upper.exponent
  let power := Wide.tenPower scale
  let value := (Wide.normal x.mantissa exponent).mul power
  let upper := upper.mul power
  let top := upper.significand - 1
  let width := top - ((lower.mul power).significand + 1)
  let one := 2 ^ (-upper.exponent).toNat
  let whole := top / one
  let found := beforePoint one (top - value.significand) width (top % one) whole
    ((toString whole).length - 1)
  ⟨found.digits, found.exponent - scale⟩

end ClusterOperator.Decimal.Quick
