import ClusterOperator.Reconcile.Conditions

/-!
# What a verdict leaves of the conditions

A verdict changes the first condition of its kind, or adds one, and leaves all
others as they are and where they are. Given again, it changes nothing, at any time.
-/

namespace ClusterOperator.Resource.Team

variable (v : Verdict) (generation : Option Int64) (now : String) (cs : List Condition)

@[simp] theorem judge_kind (c : Condition) : (c.judge v generation now).kind = c.kind := rfl

theorem setCondition_others :
    (setCondition v generation now cs).filter (·.kind ≠ v.kind) = cs.filter (·.kind ≠ v.kind) := by
  induction cs with
  | nil => simp [setCondition, Verdict.fresh]
  | cons c cs ih =>
    unfold setCondition
    by_cases hk : c.kind = v.kind
    · simp [hk]
    · simp only [hk, if_false, List.filter_cons, ih]

/-- The conditions of its kind after a verdict: the first one is under it. -/
theorem setCondition_own :
    (setCondition v generation now cs).filter (·.kind = v.kind) =
      match cs.filter (·.kind = v.kind) with
      | [] => [v.fresh generation now]
      | c :: rest => c.judge v generation now :: rest := by
  induction cs with
  | nil => simp [setCondition, Verdict.fresh]
  | cons c cs ih =>
    unfold setCondition
    by_cases hk : c.kind = v.kind
    · simp [hk]
    · simp [hk, ih]

theorem judge_judge (c : Condition) (later : String) :
    (c.judge v generation now).judge v generation later = c.judge v generation now := by
  simp [Condition.judge]

/-- The status is what it was, so the time of the first verdict stays. -/
theorem setCondition_again (later : String) :
    setCondition v generation later (setCondition v generation now cs) =
      setCondition v generation now cs := by
  induction cs with
  | nil => simp [setCondition, Verdict.fresh, Condition.judge]
  | cons c cs ih =>
    by_cases hk : c.kind = v.kind
    · simp [setCondition, hk, judge_judge]
    · simp [setCondition, hk, ih]

end ClusterOperator.Resource.Team
