import ClusterOperator.Double
import ClusterOperator.Span

/-!
# Growing delays

Each failure in a row multiplies the delay up to a maximum, and every delay
strays at random from its place in the schedule. The schedule is computed in a
number type of its own: doubles when it runs, any ordered field to reason with.
-/

namespace ClusterOperator

/-- The arithmetic that a schedule needs. -/
class Scale (R : Type) where
  zero : R
  one : R
  add : R → R → R
  sub : R → R → R
  mul : R → R → R
  less : R → R → Bool
  isFinite : R → Bool

/-- How delays grow; `initial` and `cap` are in seconds. -/
structure Growth (R : Type) where
  initial : R
  cap : R
  multiplier : R
  /-- The part of a delay by which it may stray to either side. -/
  jitter : R

/-- What a schedule asks for. -/
inductive Delay (R : Type) where
  /-- The maximum itself. -/
  | capped
  | seconds (s : R)

namespace Scale

variable {R : Type} [Scale R]

/-- Multiplies `acc` by `base` to the power of `n`, squaring as it goes. -/
def powerFrom (acc base : R) (n : Nat) : R :=
  let acc := if n % 2 = 1 then mul acc base else acc
  if h : n / 2 = 0 then acc else powerFrom acc (mul base base) (n / 2)
  termination_by n
  decreasing_by omega

def power (base : R) (n : Nat) : R := powerFrom one base n

end Scale

namespace Growth

variable {R : Type} [Scale R]

open Scale

/-- Attempts past this one wait as long as it does. -/
def maxExponent : Nat := 2 ^ 31 - 1

/-- The delay before it strays. -/
def base (g : Growth R) (attempt : Nat) : R :=
  mul g.initial (power g.multiplier (min attempt maxExponent))

/-- Moves a delay to a place between `1 - jitter` and `1 + jitter` times itself,
given by a draw between zero and one. -/
def stray (g : Growth R) (delay draw : R) : R :=
  let range := mul delay g.jitter
  add delay (sub (mul (mul draw range) (add one one)) range)

/-- The delay before another attempt, after `attempt` failures in a row. -/
def delay (g : Growth R) (attempt : Nat) (draw : R) : Delay R :=
  let base := g.base attempt
  if !isFinite base || !less base g.cap then .capped
  else
    let strayed := g.stray base draw
    let positive := if less zero strayed then strayed else zero
    .seconds (if less positive g.cap then positive else g.cap)

end Growth

/-- Failures in a row are counted up to here. -/
def maxFailures : Nat := 2 ^ 32 - 1

/-- One failure more. -/
def oneMore (failures : Nat) : Nat := min (failures + 1) maxFailures

theorem oneMore_min (n : Nat) : oneMore (min n maxFailures) = min (n + 1) maxFailures := by
  unfold oneMore
  omega

/-- A schedule together with the failures in a row so far. -/
structure Cursor (R : Type) where
  growth : Growth R
  attempt : Nat

namespace Cursor

variable {R : Type} [Scale R]

def start (growth : Growth R) : Cursor R := ⟨growth, 0⟩

/-- The delay to wait after another failure. -/
def next (c : Cursor R) (draw : R) : Delay R × Cursor R :=
  (c.growth.delay c.attempt draw, { c with attempt := oneMore c.attempt })

def reset (c : Cursor R) : Cursor R := { c with attempt := 0 }

end Cursor

/-! ## In doubles -/

instance : Scale Float where
  zero := 0
  one := 1
  add a b := a + b
  sub a b := a - b
  mul a b := a * b
  less a b := a < b
  isFinite a := a.isFinite

namespace Span

/-- Whole seconds and the rest are converted apart. -/
def toFloat (s : Span) : Float :=
  Float.ofNat (s.nanos / nanosPerSecond) +
    Float.ofNat (s.nanos % nanosPerSecond) / Float.ofNat nanosPerSecond

/-- The nearest nanosecond to a finite number of seconds that is not negative; a
half goes to the even neighbour. -/
def ofFloat (x : Float) : Span :=
  match Double.ofFloat? x with
  | some d => ⟨Double.roundHalfEven (d.units * nanosPerSecond) (2 ^ 1074)⟩
  | none => zero

end Span

/-- A schedule of delays as it is configured. -/
structure Backoff where
  initial : Span
  max : Span
  multiplier : Float
  jitter : Float

namespace Backoff

/-- For failed passes: five seconds up to five minutes. -/
def forPasses : Backoff := ⟨.ofSeconds 5, .ofSeconds 300, 2, 0.1⟩

/-- For failed logins: half a second up to an hour. -/
def forLogins : Backoff := ⟨.ofMillis 500, .ofSeconds 3600, 2, 0.1⟩

def growth (b : Backoff) : Growth Float :=
  ⟨b.initial.toFloat, b.max.toFloat, b.multiplier, b.jitter⟩

def span (b : Backoff) : Delay Float → Span
  | .capped => b.max
  | .seconds s => .ofFloat s

/-- The delay before another attempt, after `attempt` failures in a row. -/
def delay (b : Backoff) (attempt : Nat) (draw : Float) : Span :=
  b.span (b.growth.delay attempt draw)

def start (b : Backoff) : Cursor Float := .start b.growth

end Backoff

end ClusterOperator
