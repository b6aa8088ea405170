import ClusterOperator.Decimal.Layout
import ClusterOperator.Double

/-!
# The shortest decimal of a double

Of all decimals that read back as a double, the ones with the fewest digits are
taken, and of those the nearest.
-/

namespace ClusterOperator.Decimal

/-- A value `num / den` with the reals around it that round to it: those less
than `below / den` under it or `above / den` over it. -/
structure Target where
  num : Nat
  den : Nat
  below : Nat
  above : Nat
  /-- Whether the ends round to the value as well. -/
  closed : Bool

/-- The value `mantissa * 2 ^ (place - 1074)`. Where the spacing of doubles
doubles, the reals below are half as many. -/
def Target.ofBinary (mantissa place : Nat) : Target :=
  let step := 2 ^ (place - 1074)
  { num := 4 * mantissa * step
    den := 4 * 2 ^ (1074 - place)
    below := if mantissa = 2 ^ 52 ∧ 0 < place then step else 2 * step
    above := 2 * step
    closed := mantissa % 2 = 0 }

/-- How many places the first digit stands left of the point; zero or less if
it stands right of it. -/
def Target.magnitude (t : Target) : Int :=
  if t.den ≤ t.num then (toString (t.num / t.den)).length
  else
    let zeros : Int := ((List.range 400).find? fun j => t.den ≤ t.num * 10 ^ (j + 1)).getD 0
    0 - zeros

/-- `num * 10 ^ e` over `den`, as a fraction of whole numbers. -/
def shifted (num den : Nat) (e : Int) : Nat × Nat :=
  if 0 ≤ e then (num * 10 ^ e.toNat, den) else (num, den * 10 ^ (-e).toNat)

/-- Whether `digits * 10 ^ e` reads back as the value. -/
def Target.accepts (t : Target) (digits : Nat) (e : Int) : Bool :=
  let (num, den) := shifted digits 1 e
  -- compare `num / den` with the ends, all over `t.den * den`
  let x := num * t.den
  let low := (t.num - t.below) * den
  let high := (t.num + t.above) * den
  if t.closed then low ≤ x && x ≤ high else low < x && x < high

/-- The better of the two decimals with `count` digits next to the value. -/
def Target.nearest? (t : Target) (count : Nat) : Option Scaled :=
  let e := t.magnitude - count
  let (num, den) := shifted t.num t.den (-e)
  let down := num / den
  let up := down + 1
  let downIsNearer := 2 * (num % den) ≤ den
  match t.accepts down e && 0 < down, t.accepts up e with
  | true, true => some ⟨if downIsNearer then down else up, e⟩
  | true, false => some ⟨down, e⟩
  | false, true => some ⟨up, e⟩
  | false, false => none

/-- Seventeen digits are always enough. -/
def Target.shortest (t : Target) : Scaled :=
  (((List.range 17).findSome? fun n => t.nearest? (n + 1))).getD ⟨t.num / t.den, 0⟩

/-- The digits of a double other than zero. -/
def shortest (x : Double) : Scaled := (Target.ofBinary x.mantissa x.place).shortest

end ClusterOperator.Decimal
