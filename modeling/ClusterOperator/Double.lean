import ClusterOperator.Power

/-!
# Doubles

The finite values of 64-bit floating point, with arithmetic that rounds the
exact result to the nearest of them, and to the even one of two that are as near.
-/

namespace ClusterOperator

/-- The double with so many doubles of its sign between it and zero. -/
structure Double where
  negative : Bool
  code : Nat
  deriving DecidableEq, Repr

namespace Double

/-- Codes from here on stand for no finite value. -/
def codeLimit : Nat := 2047 * 2 ^ 52

def zero (negative : Bool) : Double := ⟨negative, 0⟩

/-- The size is `mantissa * 2 ^ (place - 1074)`. -/
def place (x : Double) : Nat := x.code / 2 ^ 52 - 1

def mantissa (x : Double) : Nat := x.code - x.place * 2 ^ 52

/-- The size in units of `2 ^ -1074`. -/
def units (x : Double) : Nat := x.mantissa * 2 ^ x.place

/-- `num / den`, where a half goes to the even neighbour. -/
def roundHalfEven (num den : Nat) : Nat :=
  let whole := num / den
  let left := 2 * (num % den)
  if left < den ∨ (left = den ∧ whole % 2 = 0) then whole else whole + 1

/-- The code of the double next to `num / den` units. A mantissa that rounds up to
`2 ^ 53` is the first one of the next place. -/
def codeOf (num den : Nat) : Nat :=
  let place := (num / den).log2 - 52
  place * 2 ^ 52 + roundHalfEven num (den * 2 ^ place)

/-- The double next to `num / den`, unless that is too large for one. -/
def ofRatio? (negative : Bool) (num den : Nat) : Option Double :=
  let code := codeOf (num * 2 ^ 1074) den
  if code < codeLimit then some ⟨negative, code⟩ else none

/-- The product with a positive value. -/
def mul? (x y : Double) : Option Double := ofRatio? x.negative (x.units * y.units) (2 ^ 2148)

/-- The quotient by a value of at least one, which is never too large. -/
def div (x y : Double) : Double := (ofRatio? x.negative x.units y.units).getD x

/-- The largest power of ten that is a double. -/
def lastPower : Nat := 308

/-- The double next to `10 ^ e`. -/
def tenPower (e : Nat) : Double := (ofRatio? false (10 ^ min e lastPower) 1).getD (zero false)

/-- Divided by `10 ^ e`, in steps that are rounded one by one. -/
def scaleDown (x : Double) (e : Nat) : Double :=
  if e ≤ lastPower then x.div (tenPower e)
  else if x.code = 0 then x
  else scaleDown (x.div (tenPower lastPower)) (e - lastPower)
  termination_by e
  decreasing_by simp only [lastPower] at *; omega

/-- Multiplied by `10 ^ e`, where only zero stays small beyond the last power. -/
def scaleUp? (x : Double) (e : Nat) : Option Double :=
  if e ≤ lastPower then x.mul? (tenPower e) else if x.code = 0 then some x else none

/-- `digits * 10 ^ exponent`, taken in two steps: the digits are rounded to a
double, and this is scaled. The result can be off by a unit, and is no double if
the scaling passes the largest one. -/
def ofScaled? (negative : Bool) (digits : Nat) (exponent : Int) : Option Double :=
  match ofRatio? negative digits 1 with
  | none => none
  | some x => if 0 ≤ exponent then x.scaleUp? exponent.toNat else some (x.scaleDown exponent.natAbs)

/-- The bits of the interchange format. -/
def toBits (x : Double) : UInt64 := UInt64.ofNat ((if x.negative then 2 ^ 63 else 0) + x.code)

def toFloat (x : Double) : Float := Float.ofBits x.toBits

/-- A value that is finite. -/
def ofFloat? (x : Float) : Option Double :=
  let bits := x.toBits.toNat
  let code := bits % 2 ^ 63
  if code < codeLimit then some ⟨2 ^ 63 ≤ bits, code⟩ else none

end Double

end ClusterOperator
