/-!
# Digits and where they stand

How a decimal is written once its digits are known: with its point in place, or
with the point after the first digit and an exponent.
-/

namespace ClusterOperator.Decimal

/-- `digits * 10 ^ exponent`. -/
structure Scaled where
  digits : Nat
  exponent : Int
  deriving DecidableEq, Repr

/-- A layout puts the point in its place as long as that lies within bounds. -/
structure Layout where
  /-- The bounds of the place, counted from the front of the first digit. -/
  first : Int
  last : Int
  /-- Whether an exponent that is not negative has a sign. -/
  plus : Bool
  deriving DecidableEq, Repr

namespace Layout

/-- There is always a digit after a point that stands in its place. -/
def write (l : Layout) (d : Scaled) : String :=
  let all := (toString d.digits).toList
  let kept := (all.reverse.dropWhile (· = '0')).reverse
  let place : Int := all.length + d.exponent
  let count := kept.length
  if place < l.first ∨ l.last < place then
    let exponent := place - 1
    String.ofList (kept.take 1 ++ if count = 1 then [] else '.' :: kept.drop 1) ++ "e" ++
      (if l.plus && 0 ≤ exponent then "+" else "") ++ toString exponent
  else if place ≤ 0 then
    "0." ++ String.ofList (List.replicate (-place).toNat '0' ++ kept)
  else if count ≤ place.toNat then
    String.ofList (kept ++ List.replicate (place.toNat - count) '0') ++ ".0"
  else String.ofList (kept.take place.toNat ++ '.' :: kept.drop place.toNat)

end Layout

end ClusterOperator.Decimal
