import ClusterOperator.Digest.Uuid
import ClusterOperator.Provider.Codec
import ClusterOperator.Provider.Login

/-!
# Keys of requests and of logins
-/

namespace ClusterOperator.Provider

/-- The body of a create request. -/
def CreateRequest.payload (r : CreateRequest) : String := r.toJson.render

def utf8 (s : String) : List UInt8 := s.toList.flatMap String.utf8EncodeChar

/-- The same bytes get the same key, so that a provider can tell a repeated
request from a new one. -/
def idempotencyKey (payload : List UInt8) : Uuid := .ofName .operator payload

/-- What is kept secret of a login's label. -/
def labelMaterial (endpoint : String) (c : Credential) : String :=
  endpoint ++ "\n" ++ c.key ++ "\n" ++ c.secret

/-- Under which label a login is shared: the endpoint and a fingerprint of the
credential. -/
def sessionLabel (endpoint : String) (c : Credential) : String :=
  endpoint ++ "#" ++ (Uuid.ofName .operator (utf8 (labelMaterial endpoint c))).text

end ClusterOperator.Provider
