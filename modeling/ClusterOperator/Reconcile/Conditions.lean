import ClusterOperator.Resource.Team

/-!
# Conditions

A condition is set in place if there is one of its kind, else added at the end.
Its transition time moves only when its status changes.
-/

namespace ClusterOperator.Resource.Team

/-- What a condition is set to. -/
structure Verdict where
  kind : String
  status : String
  reason : String
  message : String
  deriving DecidableEq, Repr

def Verdict.fresh (v : Verdict) (generation : Option Int64) (now : String) : Condition :=
  ⟨v.kind, v.status, v.reason, v.message, now, generation⟩

/-- An existing condition under a new verdict. -/
def Condition.judge (c : Condition) (v : Verdict) (generation : Option Int64) (now : String) :
    Condition :=
  { c with
    status := v.status
    reason := v.reason
    message := v.message
    lastTransitionTime := if c.status = v.status then c.lastTransitionTime else now
    observedGeneration := generation }

/-- Sets the first condition of the kind, or adds one. -/
def setCondition (v : Verdict) (generation : Option Int64) (now : String) :
    List Condition → List Condition
  | [] => [v.fresh generation now]
  | c :: cs =>
    if c.kind = v.kind then c.judge v generation now :: cs
    else c :: setCondition v generation now cs

/-- Whether the last listing of teams succeeded. -/
def syncedKind : String := "SpecSynced"

def Verdict.synced (ok : Bool) (reason message : String) : Verdict :=
  ⟨syncedKind, if ok then "True" else "False", reason, message⟩

/-- Teams as they are reported. The personal team has a name of its own. -/
def entries (l : Provider.TeamList) : List Entry :=
  l.teams.map fun t => ⟨t.id, if t.isPersonal then "Personal" else t.name⟩

end ClusterOperator.Resource.Team
