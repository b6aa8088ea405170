import ClusterOperator.Phase
import ClusterOperator.Resource.Metadata

/-!
# The cluster resource

What a user asks for (`Spec`), and what the operator reports back (`Status`).
-/

namespace ClusterOperator.Resource

open Json

namespace Cluster

structure Spec where
  /-- Name of the cluster at the provider, unique within a team. -/
  name : String
  teamId : Option String
  plan : String
  /-- Volume size in gigabytes. -/
  storage : Int32
  provider : String
  region : String
  pgMajorVersion : Int32
  enableHA : Bool
  deriving DecidableEq, Repr, Inhabited

/-- The provider's detail as reported in the status. -/
structure Summary where
  id : String
  name : String
  teamId : String
  cpu : Int32
  memory : Int32
  storage : Int32
  majorVersion : Int32
  haEnabled : Bool
  createdAt : Option String
  updatedAt : Option String
  providerId : String
  regionId : String
  deriving DecidableEq, Repr, Inhabited

/-- Connection data that is the same for every user. -/
structure Connection where
  connectString : String
  parentDbRole : String
  databaseName : String
  deriving DecidableEq, Repr, Inhabited

/-- The phase is kept as text, so that a spoilt value is found by a pass
instead of making the whole object unreadable. -/
structure Status where
  phase : String
  lastUpdate : Option String
  cluster : Summary
  connection : Connection
  deriving DecidableEq, Repr, Inhabited

def Summary.empty : Summary := ⟨"", "", "", 0, 0, 0, 0, false, none, none, "", ""⟩

def Connection.empty : Connection := ⟨"", "", ""⟩

def Status.empty : Status := ⟨"", none, .empty, .empty⟩

end Cluster

structure Cluster where
  metadata : Metadata
  spec : Cluster.Spec
  status : Option Cluster.Status

namespace Cluster

/-- The phase text of the status, empty if there is no status. -/
def phaseText (c : Cluster) : String := (c.status.map (·.phase)).getD ""

/-- The provider's id of the cluster, if one was recorded. -/
def clusterId (c : Cluster) : Option String :=
  (c.status.map (·.cluster.id)).filter fun id => !id.isEmpty

/-! ## As JSON -/

namespace Spec

def read (depth : Nat) : Read Spec :=
  Draft.read depth <|
    (Draft.make Spec.mk).and (.required "name" readString)
      |>.and (.optional "teamId" (readOption readString) none)
      |>.and (.required "plan" readString)
      |>.and (.required "storage" readInt32)
      |>.and (.required "provider" readString)
      |>.and (.required "region" readString)
      |>.and (.required "pgMajorVersion" readInt32)
      |>.and (.optional "enableHa" readBool false)

def toJson (s : Spec) : Json :=
  .obj <| ([("name", s.name)] : Fields) ++ Json.optional "teamId" s.teamId .string ++
    ([("plan", s.plan), ("storage", .int s.storage.toInt), ("provider", s.provider),
      ("region", s.region), ("pgMajorVersion", .int s.pgMajorVersion.toInt),
      ("enableHa", s.enableHA)] : Fields)

end Spec

namespace Summary

def read (depth : Nat) : Read Summary :=
  Draft.read depth <|
    (Draft.make Summary.mk).and (.optional "id" readString "")
      |>.and (.optional "name" readString "")
      |>.and (.optional "teamId" readString "")
      |>.and (.optional "cpu" readInt32 0)
      |>.and (.optional "memory" readInt32 0)
      |>.and (.optional "storage" readInt32 0)
      |>.and (.optional "majorVersion" readInt32 0)
      |>.and (.optional "haEnabled" readBool false)
      |>.and (.optional "createdAt" (readOption readString) none)
      |>.and (.optional "updatedAt" (readOption readString) none)
      |>.and (.optional "providerId" readString "")
      |>.and (.optional "regionId" readString "")

def toJson (m : Summary) : Json :=
  .obj <|
    ([("id", m.id), ("name", m.name), ("teamId", m.teamId), ("cpu", .int m.cpu.toInt),
      ("memory", .int m.memory.toInt), ("storage", .int m.storage.toInt),
      ("majorVersion", .int m.majorVersion.toInt), ("haEnabled", m.haEnabled)] : Fields) ++
    Json.optional "createdAt" m.createdAt .string ++ Json.optional "updatedAt" m.updatedAt .string ++
    ([("providerId", m.providerId), ("regionId", m.regionId)] : Fields)

end Summary

namespace Connection

def read (depth : Nat) : Read Connection :=
  Draft.read depth <|
    (Draft.make Connection.mk).and (.optional "connectString" readString "")
      |>.and (.optional "parentDbRole" readString "")
      |>.and (.optional "databaseName" readString "")

def toJson (c : Connection) : Json :=
  .obj [("connectString", c.connectString), ("parentDbRole", c.parentDbRole),
    ("databaseName", c.databaseName)]

end Connection

namespace Status

def read (depth : Nat) : Read Status :=
  Draft.read depth <|
    (Draft.make Status.mk).and (.optional "phase" readString "")
      |>.and (.optional "lastUpdate" (readOption readString) none)
      |>.and (.optional "cluster" (Summary.read (depth - 1)) .empty)
      |>.and (.optional "connection" (Connection.read (depth - 1)) .empty)

def toJson (s : Status) : Json :=
  .obj <| ([("phase", s.phase)] : Fields) ++ Json.optional "lastUpdate" s.lastUpdate .string ++
    ([("cluster", s.cluster.toJson), ("connection", s.connection.toJson)] : Fields)

end Status

def read (depth : Nat) : Read Cluster :=
  Draft.read depth <|
    (Draft.make Cluster.mk).and (.required "metadata" (Metadata.read (depth - 1)))
      |>.and (.required "spec" (Spec.read (depth - 1)))
      |>.and (.nullable "status" (Status.read (depth - 1)))

end Cluster

/-- Group and version of the operator's resources. -/
def apiVersion : String := "crunchybridge.crunchydata.com/v1alpha1"

def Cluster.toJson (c : Cluster) : Json :=
  .obj <|
    ([("apiVersion", apiVersion), ("kind", "BridgeCluster"), ("metadata", c.metadata.toJson),
      ("spec", c.spec.toJson)] : Fields) ++
    Json.optional "status" c.status Cluster.Status.toJson

end ClusterOperator.Resource
