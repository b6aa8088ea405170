import ClusterOperator.Provider.Login
import ClusterOperator.Resource.Metadata
import ClusterOperator.Text.Base64
import ClusterOperator.Text.Utf8

/-!
# Credentials kept in a secret
-/

namespace ClusterOperator.Kubernetes

open Json

/-- The part of a secret that the operator reads. -/
structure Secret where
  data : Option (List (String × List UInt8))

namespace Secret

/-- Bytes written in Base64. -/
def readBytes : Read (List UInt8)
  | .string s =>
    match Text.base64Decode? s with
    | some bs => .ok bs
    | none => .error .mismatch
  | .null => .ok []
  | j => .error j.clash

/-- A text that has to be this one. -/
def readExactly (text : String) : Read Unit
  | .string s => if s = text then .ok () else .error .mismatch
  | j => .error j.clash

def read (depth : Nat) : Read Secret :=
  Draft.readNamed depth <|
    (Draft.make fun _ _ _ data _ _ _ => Secret.mk data).and
        (.optional "apiVersion" (readExactly "v1") ())
      |>.and (.optional "kind" (readExactly "Secret") ())
      |>.and (Resource.maybe "metadata" (Resource.Metadata.read (depth - 1)))
      |>.and (Resource.maybe "data" (readMap (depth - 1) readBytes))
      |>.and (Resource.maybe "immutable" readBool)
      |>.and (Resource.maybe "stringData" (readMap (depth - 1) readString))
      |>.and (Resource.maybe "type" readString)

/-- A field as trimmed text; a missing one is empty. -/
def field (s : Secret) (name : String) : String :=
  match s.data.bind (·.lookup name) with
  | some bs => Text.trim (Text.ofBytes bs)
  | none => ""

def credential (s : Secret) (keyField secretField : String) : Provider.Credential :=
  ⟨s.field keyField, s.field secretField⟩

end Secret

end ClusterOperator.Kubernetes
