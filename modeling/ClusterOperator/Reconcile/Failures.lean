import ClusterOperator.Backoff

/-!
# Failures in a row, per object
-/

namespace ClusterOperator.Reconcile

/-- How many passes failed since the last success, for each key that has any. -/
structure Failures where
  counts : List (String × Nat)

namespace Failures

def none : Failures := ⟨[]⟩

def count (f : Failures) (key : String) : Nat := (f.counts.lookup key).getD 0

def clear (f : Failures) (key : String) : Failures := ⟨f.counts.filter (·.1 ≠ key)⟩

/-- Counts one failure more. -/
def record (f : Failures) (key : String) : Failures :=
  ⟨(key, oneMore (f.count key)) :: (f.clear key).counts⟩

end Failures

end ClusterOperator.Reconcile
