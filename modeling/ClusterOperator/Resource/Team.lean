import ClusterOperator.Resource.Cluster

/-!
# The team resource

Names a secret that holds an API key pair, and reports the teams that the pair
belongs to.
-/

namespace ClusterOperator.Resource

open Json

namespace Team

structure SecretReference where
  name : String
  ns : Option String
  deriving DecidableEq, Repr, Inhabited

structure Spec where
  credentialsRef : SecretReference
  deriving DecidableEq, Repr, Inhabited

/-- A team as reported in the status. -/
structure Entry where
  id : String
  name : String
  deriving DecidableEq, Repr, Inhabited

structure Condition where
  kind : String
  /-- `True`, `False` or `Unknown`. -/
  status : String
  reason : String
  message : String
  lastTransitionTime : String
  observedGeneration : Option Int64
  deriving DecidableEq, Repr, Inhabited

structure Status where
  conditions : List Condition
  teams : List Entry
  deriving DecidableEq, Repr, Inhabited

def Status.empty : Status := ⟨[], []⟩

end Team

structure Team where
  metadata : Metadata
  spec : Team.Spec
  status : Option Team.Status

namespace Team

/-- The namespace of the secret: the one it is given with, unless that is
blank, else the resource's own. -/
def secretNamespace (t : Team) : Option String :=
  (t.spec.credentialsRef.ns.filter fun ns => !Text.isBlank ns) <|> t.metadata.ns

/-- The first condition of a kind. -/
def condition? (t : Team) (kind : String) : Option Condition :=
  t.status.bind fun s => s.conditions.find? (·.kind = kind)

/-! ## As JSON -/

namespace SecretReference

def read (depth : Nat) : Read SecretReference :=
  Draft.read depth <|
    (Draft.make SecretReference.mk).and (.required "name" readString)
      |>.and (.optional "namespace" (readOption readString) none)

def toJson (r : SecretReference) : Json :=
  .obj <| ([("name", r.name)] : Fields) ++ Json.optional "namespace" r.ns .string

end SecretReference

namespace Spec

def read (depth : Nat) : Read Spec :=
  Draft.read depth <|
    (Draft.make Spec.mk).and (.required "credentialsRef" (SecretReference.read (depth - 1)))

def toJson (s : Spec) : Json := .obj [("credentialsRef", s.credentialsRef.toJson)]

end Spec

namespace Entry

def read (depth : Nat) : Read Entry :=
  Draft.read depth <|
    (Draft.make Entry.mk).and (.required "id" readString)
      |>.and (.optional "name" readString "")

def toJson (e : Entry) : Json :=
  .obj <| ([("id", e.id)] : Fields) ++ if e.name.isEmpty then [] else [("name", .string e.name)]

end Entry

namespace Condition

def read (depth : Nat) : Read Condition :=
  Draft.read depth <|
    (Draft.make Condition.mk).and (.required "type" readString)
      |>.and (.required "status" readString)
      |>.and (.required "reason" readString)
      |>.and (.required "message" readString)
      |>.and (.required "lastTransitionTime" readString)
      |>.and (.optional "observedGeneration" (readOption readInt64) none)

def toJson (c : Condition) : Json :=
  .obj <|
    ([("type", c.kind), ("status", c.status), ("reason", c.reason), ("message", c.message),
      ("lastTransitionTime", c.lastTransitionTime)] : Fields) ++
    Json.optional "observedGeneration" c.observedGeneration (.int ·.toInt)

end Condition

namespace Status

def read (depth : Nat) : Read Status :=
  Draft.read depth <|
    (Draft.make Status.mk).and
        (.optional "conditions" (readList (depth - 1) (Condition.read (depth - 2))) [])
      |>.and (.optional "teams" (readList (depth - 1) (Entry.read (depth - 2))) [])

def toJson (s : Status) : Json :=
  .obj <|
    (if s.conditions.isEmpty then [] else [("conditions", .arr (s.conditions.map Condition.toJson))]) ++
    if s.teams.isEmpty then [] else [("teams", .arr (s.teams.map Entry.toJson))]

end Status

def read (depth : Nat) : Read Team :=
  Draft.read depth <|
    (Draft.make Team.mk).and (.required "metadata" (Metadata.read (depth - 1)))
      |>.and (.required "spec" (Spec.read (depth - 1)))
      |>.and (.nullable "status" (Status.read (depth - 1)))

def toJson (t : Team) : Json :=
  .obj <|
    ([("apiVersion", apiVersion), ("kind", "BridgeTeam"), ("metadata", t.metadata.toJson),
      ("spec", t.spec.toJson)] : Fields) ++
    Json.optional "status" t.status Status.toJson

end Team

end ClusterOperator.Resource
