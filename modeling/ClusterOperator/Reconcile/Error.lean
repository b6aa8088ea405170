import ClusterOperator.Backoff
import ClusterOperator.Provider.Error
import ClusterOperator.Store.Error

/-!
# Failed passes
-/

namespace ClusterOperator.Reconcile

inductive Error where
  | kubernetes (failure : Kubernetes.Failure)
  | store (cause : Store.Error)
  | provider (cause : Provider.Error)
  | unserializable (detail : String)
  | unrecognizedPhase (text : String)
  | invalidDetail (reason : String)
  | invalidSetting (reason : String)
  | missingKey (field : String)
  deriving DecidableEq, Repr

namespace Error

def message : Error → String
  | .kubernetes f => "Kubernetes API error: " ++ f.text
  | .store cause => "Store error: " ++ cause.message
  | .provider cause => "Crunchy Bridge API error: " ++ cause.message
  | .unserializable detail => "Serialization error: " ++ detail
  | .unrecognizedPhase text => "Unrecognized cluster phase: " ++ Text.quoted text
  | .invalidDetail reason => "Invalid cluster detail: " ++ reason
  | .invalidSetting reason => "Invalid configuration: " ++ reason
  | .missingKey field => "Missing object key: " ++ field

/-- Whether another pass may succeed without anyone stepping in. -/
def isRetryable : Error → Bool
  | .kubernetes f => f.isRetryable
  | .store (.kubernetes f) => f.isRetryable
  | .store _ => true
  | .provider cause => cause.isRetryable
  | .invalidDetail _ => true
  | .unserializable _ | .unrecognizedPhase _ | .invalidSetting _ | .missingKey _ => false

def isNotFound : Error → Bool
  | .store (.notFound _) => true
  | .kubernetes f => f.hasCode 404
  | _ => false

def isConflict : Error → Bool
  | .store (.conflict _) => true
  | .kubernetes f => f.hasCode 409
  | _ => false

/-- The label under which failures are counted. -/
def kind : Error → String
  | .kubernetes _ => "kube"
  | .store _ => "store"
  | .provider cause => if cause.isLoginState then "login" else "bridge"
  | .unserializable _ => "serialization"
  | .unrecognizedPhase _ => "phase"
  | .invalidDetail _ => "detail"
  | .invalidSetting _ => "config"
  | .missingKey _ => "object_key"

end Error

/-- How long to wait after a failed pass. A failure that does not go away by
itself waits as long as the schedule allows. -/
def retryDelay (schedule : Backoff) (e : Error) (attempt : Nat) (draw : Float) : Span :=
  if e.isRetryable then schedule.delay attempt draw else schedule.max

end ClusterOperator.Reconcile
