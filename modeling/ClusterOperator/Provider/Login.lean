import ClusterOperator.Kubernetes.Failure

/-!
# Credentials and the state of a login
-/

namespace ClusterOperator.Provider

/-- An API key and its secret, exchanged for tokens. -/
structure Credential where
  key : String
  secret : String
  deriving DecidableEq, Repr, Inhabited

namespace Credential

/-- Neither part is set: the source is not configured yet. -/
def isZero (c : Credential) : Bool := c.key.isEmpty && c.secret.isEmpty

/-- For logs; the secret stays out. -/
def describe (c : Credential) : String :=
  "LoginCred \x7b key: " ++ Text.quoted c.key ++ ", secret: \"<redacted>\" \x7d"

end Credential

/-- Why a source yields no credential. -/
inductive CredentialError where
  | kubernetes (failure : Kubernetes.Failure)
  | unavailable (reason : String)
  deriving DecidableEq, Repr

def CredentialError.message : CredentialError → String
  | .kubernetes f => "Kubernetes API error: " ++ f.text
  | .unavailable reason => "Credential source unavailable: " ++ reason

/-- Only an active login has a token. -/
inductive LoginState where
  | unstarted
  /-- No login has succeeded yet. -/
  | failed
  | active
  /-- The token ran out. -/
  | inactive
  /-- The provider refused the credential. -/
  | rejected
  deriving DecidableEq, Repr

namespace LoginState

def all : List LoginState := [.unstarted, .failed, .active, .inactive, .rejected]

def text : LoginState → String
  | .unstarted => "unstarted"
  | .failed => "failed"
  | .active => "active"
  | .inactive => "inactive"
  | .rejected => "invalid_creds"

/-- For logs. -/
def name : LoginState → String
  | .unstarted => "Unstarted"
  | .failed => "Failed"
  | .active => "Active"
  | .inactive => "Inactive"
  | .rejected => "InvalidCreds"

/-- Whether using the login tries to renew it. A refused credential waits for
its scheduled retry instead. -/
def needsLogin : LoginState → Bool
  | .unstarted | .failed | .inactive => true
  | .active | .rejected => false

end LoginState

end ClusterOperator.Provider
