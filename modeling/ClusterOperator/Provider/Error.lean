import ClusterOperator.Provider.Login

/-!
# Failed calls to the provider
-/

namespace ClusterOperator.Provider

inductive Error where
  | addressMissing
  | addressInvalid (reason : String)
  | credentialMissing
  | loginFailed
  | renewalFailed
  | credentialRejected
  | credentialUnread (cause : CredentialError)
  | badRequest (message : String)
  /-- The team has a cluster of that name. -/
  | conflict (message : String)
  | noPersonalTeam
  | notFound
  | unexpectedStatus (code : UInt16)
  | transport (detail : String)
  | undecodable (detail : String)
  deriving DecidableEq, Repr

namespace Error

def message : Error → String
  | .addressMissing => "No API target URL set"
  | .addressInvalid reason => "Invalid API URL: " ++ reason
  | .credentialMissing => "No credential provider set"
  | .loginFailed => "Temporarily failed to establish initial login"
  | .renewalFailed => "Temporarily failed to establish renewed login"
  | .credentialRejected => "Invalid credentials for API login"
  | .credentialUnread cause => "Credential retrieval failed: " ++ cause.message
  | .badRequest m => "Invalid request: " ++ m
  | .conflict m => "Non-unique name specified in request: " ++ m
  | .noPersonalTeam => "Unable to identify personal team"
  | .notFound => "Resource not found on provider"
  | .unexpectedStatus code => "Unexpected response status from API: " ++ toString code.toNat
  | .transport detail => "HTTP transport error: " ++ detail
  | .undecodable detail => "Failed to decode API payload: " ++ detail

/-- Whether the failure can go away without anyone stepping in. -/
def isRetryable : Error → Bool
  | .addressMissing | .addressInvalid _ => false
  | .credentialMissing | .loginFailed | .renewalFailed | .credentialRejected
  | .credentialUnread _ | .transport _ => true
  | .unexpectedStatus code => code ≥ 500 || code = 429
  | .badRequest _ | .conflict _ | .noPersonalTeam | .notFound | .undecodable _ => false

/-- Whether the failure tells of the login and not of the call. -/
def isLoginState : Error → Bool
  | .credentialMissing | .loginFailed | .renewalFailed | .credentialRejected => true
  | _ => false

/-- Whether the key pair itself cannot be used. -/
def isAuthentication : Error → Bool
  | .credentialUnread _ | .addressMissing | .addressInvalid _ => true
  | e => e.isLoginState

end Error

/-- What a call meets when it tries to use a login in this state. -/
def LoginState.check : LoginState → Except Error Unit
  | .active => .ok ()
  | .unstarted => .error .credentialMissing
  | .failed => .error .loginFailed
  | .inactive => .error .renewalFailed
  | .rejected => .error .credentialRejected

end ClusterOperator.Provider
