import ClusterOperator.Proofs.Json.Contents
import ClusterOperator.Resource.Cluster
import ClusterOperator.Resource.Team

/-!
# What the texts of specs and statuses say

What a user left out has no value, and what the operator left out was empty.
-/

namespace ClusterOperator.Resource

open Json

variable {depth : Nat}

/-! ## Clusters -/

namespace Cluster

def Spec.slots (s : Spec) : List Slot :=
  [.required "name" IsText s.name, .optional "teamId" (OrNull IsText) s.teamId none,
    .required "plan" IsText s.plan, .required "storage" IsInt32 s.storage,
    .required "provider" IsText s.provider, .required "region" IsText s.region,
    .required "pgMajorVersion" IsInt32 s.pgMajorVersion, .optional "enableHa" IsBool s.enableHA false]

theorem Spec.faithful : Faithful (read depth) fun s => Tells s.slots := by
  intro j s h
  refine Draft.tells_of_read slots ?_ (by simp) (by simp) h
  intro name teamId plan storage provider region pgMajorVersion enableHA
  exact .cons (name.required faithful_string) <| .cons (teamId.optional faithful_string.option) <|
    .cons (plan.required faithful_string) <| .cons (storage.required faithful_int32) <|
    .cons (provider.required faithful_string) <| .cons (region.required faithful_string) <|
    .cons (pgMajorVersion.required faithful_int32) <| .cons (enableHA.optional faithful_bool) .nil

def Summary.slots (m : Summary) : List Slot :=
  [.optional "id" IsText m.id "", .optional "name" IsText m.name "",
    .optional "teamId" IsText m.teamId "", .optional "cpu" IsInt32 m.cpu 0,
    .optional "memory" IsInt32 m.memory 0, .optional "storage" IsInt32 m.storage 0,
    .optional "majorVersion" IsInt32 m.majorVersion 0, .optional "haEnabled" IsBool m.haEnabled false,
    .optional "createdAt" (OrNull IsText) m.createdAt none,
    .optional "updatedAt" (OrNull IsText) m.updatedAt none,
    .optional "providerId" IsText m.providerId "", .optional "regionId" IsText m.regionId ""]

theorem Summary.faithful : Faithful (read depth) fun m => Tells m.slots := by
  intro j m h
  refine Draft.tells_of_read slots ?_ (by simp) (by simp) h
  intro id name teamId cpu memory storage majorVersion haEnabled createdAt updatedAt providerId regionId
  exact .cons (id.optional faithful_string) <| .cons (name.optional faithful_string) <|
    .cons (teamId.optional faithful_string) <| .cons (cpu.optional faithful_int32) <|
    .cons (memory.optional faithful_int32) <| .cons (storage.optional faithful_int32) <|
    .cons (majorVersion.optional faithful_int32) <| .cons (haEnabled.optional faithful_bool) <|
    .cons (createdAt.optional faithful_string.option) <|
    .cons (updatedAt.optional faithful_string.option) <|
    .cons (providerId.optional faithful_string) <| .cons (regionId.optional faithful_string) .nil

def Connection.slots (c : Connection) : List Slot :=
  [.optional "connectString" IsText c.connectString "",
    .optional "parentDbRole" IsText c.parentDbRole "",
    .optional "databaseName" IsText c.databaseName ""]

theorem Connection.faithful : Faithful (read depth) fun c => Tells c.slots := by
  intro j c h
  refine Draft.tells_of_read slots ?_ (by simp) (by simp) h
  intro connectString parentDbRole databaseName
  exact .cons (connectString.optional faithful_string) <|
    .cons (parentDbRole.optional faithful_string) <| .cons (databaseName.optional faithful_string) .nil

def Status.slots (s : Status) : List Slot :=
  [.optional "phase" IsText s.phase "", .optional "lastUpdate" (OrNull IsText) s.lastUpdate none,
    .optional "cluster" (fun m => Tells m.slots) s.cluster .empty,
    .optional "connection" (fun c => Tells c.slots) s.connection .empty]

theorem Status.faithful : Faithful (read depth) fun s => Tells s.slots := by
  intro j s h
  refine Draft.tells_of_read slots ?_ (by simp) (by simp) h
  intro phase lastUpdate cluster connection
  exact .cons (phase.optional faithful_string) <| .cons (lastUpdate.optional faithful_string.option) <|
    .cons (cluster.optional Summary.faithful) <| .cons (connection.optional Connection.faithful) .nil

end Cluster

/-! ## Teams -/

namespace Team

def SecretReference.slots (r : SecretReference) : List Slot :=
  [.required "name" IsText r.name, .optional "namespace" (OrNull IsText) r.ns none]

theorem SecretReference.faithful : Faithful (read depth) fun r => Tells r.slots := by
  intro j r h
  refine Draft.tells_of_read slots ?_ (by simp) (by simp) h
  intro name ns
  exact .cons (name.required faithful_string) <| .cons (ns.optional faithful_string.option) .nil

def Spec.slots (s : Spec) : List Slot :=
  [.required "credentialsRef" (fun r => Tells r.slots) s.credentialsRef]

theorem Spec.faithful : Faithful (read depth) fun s => Tells s.slots := by
  intro j s h
  refine Draft.tells_of_read slots ?_ (by simp) (by simp) h
  intro credentialsRef
  exact .cons (credentialsRef.required SecretReference.faithful) .nil

def Entry.slots (e : Entry) : List Slot :=
  [.required "id" IsText e.id, .optional "name" IsText e.name ""]

theorem Entry.faithful : Faithful (read depth) fun e => Tells e.slots := by
  intro j e h
  refine Draft.tells_of_read slots ?_ (by simp) (by simp) h
  intro id name
  exact .cons (id.required faithful_string) <| .cons (name.optional faithful_string) .nil

def Condition.slots (c : Condition) : List Slot :=
  [.required "type" IsText c.kind, .required "status" IsText c.status,
    .required "reason" IsText c.reason, .required "message" IsText c.message,
    .required "lastTransitionTime" IsText c.lastTransitionTime,
    .optional "observedGeneration" (OrNull IsInt64) c.observedGeneration none]

theorem Condition.faithful : Faithful (read depth) fun c => Tells c.slots := by
  intro j c h
  refine Draft.tells_of_read slots ?_ (by simp) (by simp) h
  intro kind status reason message lastTransitionTime observedGeneration
  exact .cons (kind.required faithful_string) <| .cons (status.required faithful_string) <|
    .cons (reason.required faithful_string) <| .cons (message.required faithful_string) <|
    .cons (lastTransitionTime.required faithful_string) <|
    .cons (observedGeneration.optional faithful_int64.option) .nil

def Status.slots (s : Status) : List Slot :=
  [.optional "conditions" (IsList fun c => Tells c.slots) s.conditions [],
    .optional "teams" (IsList fun e => Tells e.slots) s.teams []]

theorem Status.faithful : Faithful (read depth) fun s => Tells s.slots := by
  intro j s h
  refine Draft.tells_of_read slots ?_ (by simp) (by simp) h
  intro conditions teams
  exact .cons (conditions.optional Condition.faithful.list) <|
    .cons (teams.optional Entry.faithful.list) .nil

end Team

end ClusterOperator.Resource
