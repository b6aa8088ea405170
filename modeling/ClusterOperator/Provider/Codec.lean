import ClusterOperator.Json.Record
import ClusterOperator.Provider.Types

/-!
# The provider's types as JSON
-/

namespace ClusterOperator.Provider

open Json

def readTimestamp : Read Timestamp
  | .string s =>
    match Timestamp.ofText? s with
    | some t => .ok t
    | none => .error .mismatch
  | j => .error j.clash

def writeTimestamp (t : Option Timestamp) : Json :=
  match t with
  | some t => .string t.toText
  | none => .null

namespace CreateRequest

def read (depth : Nat) : Read CreateRequest :=
  Draft.read depth <|
    (Draft.make CreateRequest.mk).and (.required "name" readString)
      |>.and (.required "team_id" readString)
      |>.and (.required "plan_id" readString)
      |>.and (.required "storage" readInt32)
      |>.and (.required "provider_id" readString)
      |>.and (.required "region_id" readString)
      |>.and (.required "major_version" readInt32)
      |>.and (.required "is_ha" readBool)

def toJson (r : CreateRequest) : Json :=
  .obj [("name", r.name), ("team_id", r.teamId), ("plan_id", r.plan),
    ("storage", .int r.storage.toInt), ("provider_id", r.provider), ("region_id", r.region),
    ("major_version", .int r.majorVersion.toInt), ("is_ha", r.isHA)]

end CreateRequest

namespace InstanceDetail

def read (depth : Nat) : Read InstanceDetail :=
  Draft.read depth <|
    (Draft.make InstanceDetail.mk).and (.optional "id" readString "")
      |>.and (.optional "name" readString "")
      |>.and (.optional "provider_id" readString "")
      |>.and (.optional "region_id" readString "")
      |>.and (.optional "type" readString "")
      |>.and (.optional "url" readString "")

def toJson (i : InstanceDetail) : Json :=
  .obj [("id", i.id), ("name", i.name), ("provider_id", i.providerId), ("region_id", i.regionId),
    ("type", i.kind), ("url", i.url)]

end InstanceDetail

namespace ClusterDetail

/-- The fields of a detail, given how its instances and replicas are read. -/
def draft (instances : Read (List InstanceDetail)) (replicas : Read (List ClusterDetail)) :
    Draft ClusterDetail :=
  (Draft.make ClusterDetail.mk).and (.optional "id" readString "")
    |>.and (.optional "name" readString "")
    |>.and (.optional "team_id" readString "")
    |>.and (.optional "cpu" readInt32 0)
    |>.and (.optional "memory" readInt32 0)
    |>.and (.optional "storage" readInt32 0)
    |>.and (.optional "major_version" readInt32 0)
    |>.and (.optional "is_ha" readBool false)
    |>.and (.optional "created_at" (readOption readTimestamp) none)
    |>.and (.optional "updated_at" (readOption readTimestamp) none)
    |>.and (.optional "oldest_backup" (readOption readTimestamp) none)
    |>.and (.optional "provider_id" readString "")
    |>.and (.optional "region_id" readString "")
    |>.and (.optional "state" readString "")
    |>.and (.optional "instances" instances [])
    |>.and (.optional "replicas" replicas [])

/-- A replica stands two containers deeper than the detail that lists it. -/
def read : Nat → Read ClusterDetail
  | 0 => Draft.read 0 (draft (readList 0 (InstanceDetail.read 0)) (readList 0 fun _ => .error .malformed))
  | 1 => Draft.read 1 (draft (readList 0 (InstanceDetail.read 0)) (readList 0 fun _ => .error .malformed))
  | depth + 2 =>
    Draft.read (depth + 2)
      (draft (readList (depth + 1) (InstanceDetail.read depth)) (readList (depth + 1) (read depth)))

mutual

def toJson : ClusterDetail → Json
  | ⟨id, name, teamId, cpu, memory, storage, majorVersion, isHA, createdAt, updatedAt,
      oldestBackup, providerId, regionId, state, instances, replicas⟩ =>
    .obj [("id", id), ("name", name), ("team_id", teamId), ("cpu", .int cpu.toInt),
      ("memory", .int memory.toInt), ("storage", .int storage.toInt),
      ("major_version", .int majorVersion.toInt), ("is_ha", isHA),
      ("created_at", writeTimestamp createdAt), ("updated_at", writeTimestamp updatedAt),
      ("oldest_backup", writeTimestamp oldestBackup), ("provider_id", providerId),
      ("region_id", regionId), ("state", state),
      ("instances", .arr (instances.map InstanceDetail.toJson)),
      ("replicas", .array (listToJson replicas))]

def listToJson : List ClusterDetail → Items
  | [] => .nil
  | d :: ds => .cons d.toJson (listToJson ds)

end

end ClusterDetail

namespace ClusterList

def read (depth : Nat) : Read ClusterList :=
  Draft.read depth <|
    (Draft.make ClusterList.mk).and
        (.optional "clusters" (readList (depth - 1) (ClusterDetail.read (depth - 2))) [])
      |>.and (.optional "total_count" readInt64 0)

def toJson (l : ClusterList) : Json :=
  .obj [("clusters", .array (ClusterDetail.listToJson l.clusters)),
    ("total_count", .int l.totalCount.toInt)]

end ClusterList

namespace Team

def read (depth : Nat) : Read Team :=
  Draft.read depth <|
    (Draft.make Team.mk).and (.required "id" readString)
      |>.and (.optional "name" readString "")
      |>.and (.optional "is_personal" readBool false)

def toJson (t : Team) : Json :=
  .obj [("id", t.id), ("name", t.name), ("is_personal", t.isPersonal)]

end Team

namespace TeamList

def read (depth : Nat) : Read TeamList :=
  Draft.read depth <|
    (Draft.make TeamList.mk).and (.optional "teams" (readList (depth - 1) (Team.read (depth - 2))) [])

def toJson (l : TeamList) : Json := .obj [("teams", .arr (l.teams.map Team.toJson))]

end TeamList

namespace ConnectionRole

def read (depth : Nat) : Read ConnectionRole :=
  Draft.read depth <|
    (Draft.make ConnectionRole.mk).and (.optional "name" readString "")
      |>.and (.optional "password" readString "")
      |>.and (.optional "uri" readString "")

def toJson (r : ConnectionRole) : Json :=
  .obj [("name", r.name), ("password", r.password), ("uri", r.uri)]

end ConnectionRole

namespace IssuedToken

def read (depth : Nat) : Read IssuedToken :=
  Draft.read depth <|
    (Draft.make IssuedToken.mk).and (.required "access_token" readString)
      |>.and (.optional "id" readString "")
      |>.and (.required "expires_in" readUInt64)

def toJson (t : IssuedToken) : Json :=
  .obj [("access_token", t.accessToken), ("id", t.id), ("expires_in", .int t.expiresIn.toNat)]

end IssuedToken

namespace Message

def read (depth : Nat) : Read Message :=
  Draft.read depth <|
    (Draft.make Message.mk).and (.optional "message" readString "")
      |>.and (.optional "request_id" readString "")

def toJson (m : Message) : Json := .obj [("message", m.message), ("request_id", m.requestId)]

end Message

end ClusterOperator.Provider
