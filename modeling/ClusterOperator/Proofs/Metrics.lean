import ClusterOperator.Simulation.Surroundings

/-!
# Metrics that count

A counter that was never used is zero. What a note does to the counters and to the gauge
is said family by family.
-/

namespace ClusterOperator.Metrics

open Provider (LoginState)
open Reconcile (Note)
open Resource (ObjectKey)

namespace Family

variable {κ : Type} [DecidableEq κ]

def count (f : Family κ Nat) (labels : κ) : Nat := (f.get? labels).getD 0

theorem count_update (f : Family κ Nat) (k k' : κ) :
    (f.update k 0 (· + 1)).count k' = f.count k' + if k = k' then 1 else 0 := by
  by_cases h : k = k'
  · subst h
    rw [count, get?_update_self, if_pos rfl, Option.getD_some, ← count]
  · rw [count, get?_update_of_ne f (Ne.symm h), if_neg h, ← count, Nat.add_zero]

end Family

/-- Takes a note of a pass that took some time and ended at a time in Unix seconds. -/
def take (m : Metrics) (n : Note) (seconds : Float) (now : Int) : Metrics :=
  match n with
  | .moved source target => m.moved source target
  | .login state => m.showLogin state
  | .succeeded key => m.succeeded key seconds now
  | .failed key kind => m.failed key kind

theorem measure_eq (n : Note) (clock : Timestamp) (m : Metrics) :
    Simulation.measure n clock m = m.take n 0 clock.unixSeconds := by
  cases n <;> rfl

section
variable (m : Metrics)

theorem count_moved (source target : String) (k : String × String) :
    (m.moved source target).transitions.count k =
      m.transitions.count k + if (source, target) = k then 1 else 0 :=
  Family.count_update ..

theorem count_succeeded (key k : ObjectKey) (seconds : Float) (now : Int) :
    (m.succeeded key seconds now).reconciliations.count k =
      m.reconciliations.count k + if key = k then 1 else 0 :=
  Family.count_update ..

theorem count_failed (key : ObjectKey) (kind : String) (k : ObjectKey × String) :
    (m.failed key kind).errors.count k = m.errors.count k + if (key, kind) = k then 1 else 0 :=
  Family.count_update ..

end

theorem text_inj {a b : LoginState} (h : a.text = b.text) : a = b := by
  revert h
  cases a <;> cases b <;> decide

theorem get?_foldl_update (current s : LoginState) (states : List LoginState)
    (f : Family String Int) :
    (states.foldl (fun f s => f.update s.text 0 fun _ => if s = current then 1 else 0) f).get? s.text =
      if s ∈ states then some (if s = current then 1 else 0) else f.get? s.text := by
  induction states generalizing f with
  | nil => rfl
  | cons s' states ih =>
    rw [List.foldl_cons, ih]
    by_cases hs : s = s'
    · subst hs
      simp [Family.get?_update_self]
    · rw [Family.get?_update_of_ne f (mt text_inj hs)]
      simp [hs]

/-- The gauge is one for the current state and zero for every other. -/
theorem get?_showLogin (m : Metrics) (current s : LoginState) :
    (m.showLogin current).login.get? s.text = some (if s = current then 1 else 0) := by
  have hs : s ∈ LoginState.all := by cases s <;> decide
  rw [showLogin, get?_foldl_update, if_pos hs]

end ClusterOperator.Metrics
