import ClusterOperator.Kubernetes.Failure

/-!
# Failures of the resource store
-/

namespace ClusterOperator.Store

/-- A missing object and a write that lost a race are told from all else. -/
inductive Error where
  | notFound (message : String)
  | conflict (message : String)
  | kubernetes (failure : Kubernetes.Failure)
  deriving DecidableEq, Repr

namespace Error

def ofFailure (f : Kubernetes.Failure) : Error :=
  match f with
  | .refused r =>
    if r.code = 404 then .notFound r.message
    else if r.code = 409 then .conflict r.message
    else .kubernetes f
  | .other _ => .kubernetes f

def message : Error → String
  | .notFound m => "Resource not found: " ++ m
  | .conflict m => "Resource version conflict: " ++ m
  | .kubernetes f => "Kubernetes API error: " ++ f.text

end Error

end ClusterOperator.Store
