/-!
# Lengths of time
-/

namespace ClusterOperator

/-- A length of time in whole nanoseconds. -/
structure Span where
  nanos : Nat
  deriving DecidableEq, Repr, Inhabited

namespace Span

def zero : Span := ⟨0⟩

def nanosPerSecond : Nat := 1000000000

def ofMillis (n : Nat) : Span := ⟨n * 1000000⟩

def ofSeconds (n : Nat) : Span := ⟨n * nanosPerSecond⟩

/-- Nothing is left of a span that is shorter than what is taken. -/
def minus (a b : Span) : Span := ⟨a.nanos - b.nanos⟩

end Span

end ClusterOperator
