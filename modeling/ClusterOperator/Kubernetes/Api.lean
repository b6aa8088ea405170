import ClusterOperator.Http
import ClusterOperator.Kubernetes.Secret
import ClusterOperator.Program
import ClusterOperator.Resource.Team
import ClusterOperator.Store.Error

/-!
# Objects behind the Kubernetes API

Reading and replacing objects of one namespace, as programs over requests.
-/

namespace ClusterOperator.Kubernetes

open Resource (Metadata ObjectKey)

structure Request where
  method : Http.Method
  path : String
  body : Option Json

@[reducible] def Answer : Request → Type := fun _ => Except Failure Http.Response

/-- A refusal as the API server writes it, or what can be said without one. -/
def readRefusal (status : UInt16) (body : String) : Refusal :=
  let read (depth : Nat) : Json.Read Refusal :=
    Json.Draft.read depth <|
      (Json.Draft.make Refusal.mk).and (.required "status" Json.readString)
        |>.and (.optional "message" Json.readString "")
        |>.and (.optional "reason" Json.readString "")
        |>.and (.required "code" Json.readUInt16)
  match Json.readText (read Json.depthLimit) body with
  | .ok r => r
  | .error _ => ⟨Http.statusText status, Text.quoted body, "Failed to parse error data", status⟩

def decode {α : Type} (read : Nat → Json.Read α) (r : Http.Response) : Except Failure α :=
  match r.body with
  | .error detail => .error (.other detail)
  | .ok body =>
    if r.isError then .error (.refused (readRefusal r.status body))
    else (Json.readText (read Json.depthLimit) body).mapError fun _ => .other "unreadable object"

/-- Where the objects of a kind are found. -/
structure Collection where
  group : String
  plural : String

namespace Collection

def clusters : Collection := ⟨"/apis/" ++ Resource.apiVersion, "bridgeclusters"⟩

def teams : Collection := ⟨"/apis/" ++ Resource.apiVersion, "bridgeteams"⟩

def secrets : Collection := ⟨"/api/v1", "secrets"⟩

def path (c : Collection) (key : ObjectKey) : String :=
  c.group ++ "/namespaces/" ++ key.ns ++ "/" ++ c.plural ++ "/" ++ key.name

end Collection

/-- One request about a named object. An object without a name cannot be asked
for; a name that ends a path or cannot stand in one does so here as well. -/
def exchange {α : Type} (read : Nat → Json.Read α) (name : String) (r : Request) :
    Program Answer (Except Failure α) :=
  if name.isEmpty then .done (.error (.other "A resource name must not be empty"))
  else
    match Http.path? r.path with
    | none => .done (.error (.other "invalid uri character"))
    | some path =>
      (Program.query (A := Answer) { r with path := path }).bind fun answer =>
        .done (answer.bind (decode read))

def get {α : Type} (c : Collection) (read : Nat → Json.Read α) (key : ObjectKey) :
    Program Answer (Except Failure α) :=
  exchange read key.name ⟨.get, c.path key, none⟩

/-- Which half of an object is replaced. -/
inductive Part where
  | main
  | status
  deriving DecidableEq, Repr

def Part.path : Part → String
  | .main => ""
  | .status => "/status"

/-- An object is replaced under its own name, in the default namespace if it
names none. The query of the target is empty. -/
def replace {α : Type} (c : Collection) (read : Nat → Json.Read α) (part : Part)
    (metadata : Metadata) (object : Json) : Program Answer (Except Store.Error α) :=
  match metadata.name with
  | none => .done (.error (.notFound "object has no name"))
  | some name =>
    let key : ObjectKey := ⟨metadata.ns.getD "default", name⟩
    (exchange read name ⟨.put, c.path key ++ part.path ++ "?", some object⟩).bind fun r =>
      .done (r.mapError .ofFailure)

/-! ## Clusters, teams, secrets -/

def loadCluster (key : ObjectKey) : Program Answer (Except Store.Error Resource.Cluster) :=
  (get .clusters Resource.Cluster.read key).bind fun r => .done (r.mapError .ofFailure)

def replaceCluster (part : Part) (c : Resource.Cluster) :
    Program Answer (Except Store.Error Resource.Cluster) :=
  replace .clusters Resource.Cluster.read part c.metadata c.toJson

def loadTeam (key : ObjectKey) : Program Answer (Except Store.Error Resource.Team) :=
  (get .teams Resource.Team.read key).bind fun r => .done (r.mapError .ofFailure)

def replaceTeam (part : Part) (t : Resource.Team) :
    Program Answer (Except Store.Error Resource.Team) :=
  replace .teams Resource.Team.read part t.metadata t.toJson

/-- A secret, and the fields of it that hold a key pair. -/
structure SecretSource where
  key : ObjectKey
  keyField : String
  secretField : String
  deriving DecidableEq, Repr

def SecretSource.credential (s : SecretSource) :
    Program Answer (Except Provider.CredentialError Provider.Credential) :=
  (get .secrets Secret.read s.key).bind fun r =>
    .done <|
      match r with
      | .ok secret => .ok (secret.credential s.keyField s.secretField)
      | .error f => .error (.kubernetes f)

end ClusterOperator.Kubernetes
