import ClusterOperator.Text.Quoted

/-!
# Failed requests to the Kubernetes API
-/

namespace ClusterOperator.Kubernetes

/-- A refusal in the words of the API server. -/
structure Refusal where
  status : String
  message : String
  reason : String
  code : UInt16
  deriving DecidableEq, Repr

inductive Failure where
  | refused (refusal : Refusal)
  /-- No refusal was received: the request or its answer went wrong. -/
  | other (detail : String)
  deriving DecidableEq, Repr

namespace Failure

def text : Failure → String
  | .refused r =>
    "ApiError: " ++ r.message ++ ": " ++ r.reason ++ " (ErrorResponse \x7b status: " ++
      Text.quoted r.status ++ ", message: " ++ Text.quoted r.message ++ ", reason: " ++
      Text.quoted r.reason ++ ", code: " ++ toString r.code.toNat ++ " \x7d)"
  | .other detail => detail

def hasCode (f : Failure) (code : UInt16) : Bool :=
  match f with
  | .refused r => r.code = code
  | .other _ => false

/-- Client errors do not go away by themselves, except for a conflict and for
too many requests. -/
def isRetryable : Failure → Bool
  | .refused r => !(400 ≤ r.code && r.code < 500) || r.code = 409 || r.code = 429
  | .other _ => true

end Failure

end ClusterOperator.Kubernetes
