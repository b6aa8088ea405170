import ClusterOperator.Power

/-!
# Punycode

Characters outside ASCII are written after the others of a label, as numbers that
tell how far to go through all places of the label and all characters.
-/

namespace ClusterOperator.Url.Punycode

def digit (n : Nat) : Char :=
  if n < 26 then Char.ofNat ('a'.toNat + n) else Char.ofNat ('0'.toNat + (n - 26))

def digitValue? (c : Char) : Option Nat :=
  if 'a' ≤ c ∧ c ≤ 'z' then some (c.toNat - 'a'.toNat)
  else if 'A' ≤ c ∧ c ≤ 'Z' then some (c.toNat - 'A'.toNat)
  else if '0' ≤ c ∧ c ≤ '9' then some (c.toNat - '0'.toNat + 26)
  else none

def initialBias : Nat := 72

/-- The digits below this value end a number, at the place counted in steps of 36. -/
def threshold (bias place : Nat) : Nat := min (max (place - bias) 1) 26

/-- Where `adapt` ends up once its difference is small. -/
def settle (delta place : Nat) : Nat :=
  if 455 < delta then settle (delta / 35) (place + 36)
  else place + 36 * delta / (delta + 38)
  termination_by delta
  decreasing_by omega

/-- The bias for the next number, after one that led to `count` characters. -/
def adapt (delta count : Nat) (first : Bool) : Nat :=
  let delta := if first then delta / 700 else delta / 2
  settle (delta + delta / count) 0

/-- A number in digits of growing base; a digit below its threshold is the last. -/
def writeNumber (bias place n : Nat) : List Char :=
  let t := threshold bias place
  if n < t then [digit n]
  else digit (t + (n - t) % (36 - t)) :: writeNumber bias (place + 36) ((n - t) / (36 - t))
  termination_by n
  decreasing_by
    have : 1 ≤ threshold bias place := by simp only [threshold]; omega
    have := Nat.div_le_self (n - threshold bias place) (36 - threshold bias place)
    omega

structure Encoder where
  /-- Written so far, in reverse. -/
  out : List Char
  delta : Nat
  bias : Nat
  count : Nat

/-- Writes the places at which the label holds `code`. -/
def encodeCode (basic code : Nat) : List Nat → Encoder → Encoder
  | [], e => e
  | c :: cs, e =>
    if c < code then encodeCode basic code cs { e with delta := e.delta + 1 }
    else if c = code then
      encodeCode basic code cs
        ⟨(writeNumber e.bias 36 e.delta).reverse ++ e.out, 0,
          adapt e.delta (e.count + 1) (e.count = basic), e.count + 1⟩
    else encodeCode basic code cs e

def encodeCodes (basic : Nat) (label : List Nat) : (reached : Nat) → List Nat → Encoder → Encoder
  | _, [], e => e
  | reached, code :: codes, e =>
    let e := { e with delta := e.delta + (code - reached) * (e.count + 1) }
    let e := encodeCode basic code label e
    encodeCodes basic label (code + 1) codes { e with delta := e.delta + 1 }

def encode (label : List Nat) : List Char :=
  let basic := label.filter fun c => c < 0x80
  let codes := (label.filter fun c => 0x80 ≤ c).eraseDups.mergeSort
  let e := encodeCodes basic.length label 0x80 codes ⟨[], 0, initialBias, basic.length⟩
  basic.map Char.ofNat ++ (if basic.isEmpty then [] else ['-']) ++ e.out.reverse

/-- Numbers are read as words of this many values. -/
def wordSize : Nat := 2 ^ 32

/-- A number from the front of the digits, added to a sum. -/
def readNumber (bias : Nat) : (place weight sum : Nat) → List Char → Option (Nat × List Char)
  | _, _, _, [] => none
  | place, weight, sum, c :: cs =>
    match digitValue? c with
    | none => none
    | some d =>
      let sum := sum + d * weight
      let t := threshold bias place
      let next := weight * (36 - t)
      if wordSize ≤ sum then none
      else if d < t then some (sum, cs)
      else if wordSize ≤ next then none
      else readNumber bias (place + 36) next sum cs

/-- Inserts the characters that the digits describe. The fuel is the number of
digits. -/
def decodeFrom :
    (fuel : Nat) → (code place bias : Nat) → List Char → List Nat → Option (List Nat)
  | _, _, _, _, [], label => some label
  | 0, _, _, _, _ :: _, _ => none
  | fuel + 1, code, place, bias, c :: cs, label =>
    match readNumber bias 36 1 place (c :: cs) with
    | none => none
    | some (sum, cs) =>
      let count := label.length + 1
      let code := code + sum / count
      let spot := sum % count
      if code < 0xD800 ∨ (0xDFFF < code ∧ code < 0x110000) then
        decodeFrom fuel code (spot + 1) (adapt (sum - place) count (place = 0)) cs
          (label.take spot ++ code :: label.drop spot)
      else none

/-- The characters before the last hyphen stand for themselves. A hyphen with
nothing before it is no hyphen of that kind. -/
def decode? (cs : List Char) : Option (List Nat) :=
  let digits := (cs.reverse.takeWhile (· ≠ '-')).reverse
  let basic := cs.take (cs.length - digits.length - 1)
  if digits.length < cs.length ∧ basic.isEmpty then none
  else decodeFrom digits.length 0x80 0 initialBias digits (basic.map Char.toNat)

end ClusterOperator.Url.Punycode
