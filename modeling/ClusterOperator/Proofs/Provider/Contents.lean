import ClusterOperator.Proofs.Json.Contents
import ClusterOperator.Proofs.Timestamp.Meaning
import ClusterOperator.Provider.Codec

/-!
# What the provider's texts say

Each type has its fields under their names or in this order, and what it is without them.
-/

namespace ClusterOperator.Provider

open Json

variable {depth : Nat}

def IsTime (t : Timestamp) (j : Json) : Prop := ∃ s, j = .string s ∧ Timestamp.Names s t

theorem faithful_timestamp : Faithful readTimestamp IsTime := by
  intro j t h
  cases j with
  | string s =>
    unfold readTimestamp at h
    simp only at h
    split at h
    · next t' ht =>
      cases h
      exact ⟨s, rfl, Timestamp.names_of_ofText? ht⟩
    · cases h
  | _ => cases h

namespace InstanceDetail

def slots (i : InstanceDetail) : List Slot :=
  [.optional "id" IsText i.id "", .optional "name" IsText i.name "",
    .optional "provider_id" IsText i.providerId "", .optional "region_id" IsText i.regionId "",
    .optional "type" IsText i.kind "", .optional "url" IsText i.url ""]

theorem faithful : Faithful (read depth) fun i => Tells i.slots := by
  intro j i h
  refine Draft.tells_of_read slots ?_ (by simp) (by simp) h
  intro id name providerId regionId kind url
  exact .cons (id.optional faithful_string) <| .cons (name.optional faithful_string) <|
    .cons (providerId.optional faithful_string) <| .cons (regionId.optional faithful_string) <|
    .cons (kind.optional faithful_string) <| .cons (url.optional faithful_string) .nil

end InstanceDetail

/-! ## Clusters and their replicas -/

namespace ClusterDetail

/-- The fields of a detail, given what a text has to say for its replicas. -/
def slots (replicas : Json → Prop) (d : ClusterDetail) : List Slot :=
  [.optional "id" IsText d.id "", .optional "name" IsText d.name "",
    .optional "team_id" IsText d.teamId "", .optional "cpu" IsInt32 d.cpu 0,
    .optional "memory" IsInt32 d.memory 0, .optional "storage" IsInt32 d.storage 0,
    .optional "major_version" IsInt32 d.majorVersion 0, .optional "is_ha" IsBool d.isHA false,
    .optional "created_at" (OrNull IsTime) d.createdAt none,
    .optional "updated_at" (OrNull IsTime) d.updatedAt none,
    .optional "oldest_backup" (OrNull IsTime) d.oldestBackup none,
    .optional "provider_id" IsText d.providerId "", .optional "region_id" IsText d.regionId "",
    .optional "state" IsText d.state "",
    .optional "instances" (IsList fun i => Tells i.slots) d.instances [],
    ⟨"replicas", replicas, d.replicas = []⟩]

mutual

/-- What a text says of a cluster, which says as much of each of its replicas. -/
def Told : ClusterDetail → Json → Prop
  | ⟨id, name, teamId, cpu, memory, storage, majorVersion, isHA, createdAt, updatedAt,
      oldestBackup, providerId, regionId, state, instances, replicas⟩, j =>
    Tells (slots (fun j => ∃ js, j = .arr js ∧ EachTold replicas js)
      ⟨id, name, teamId, cpu, memory, storage, majorVersion, isHA, createdAt, updatedAt,
        oldestBackup, providerId, regionId, state, instances, replicas⟩) j

def EachTold : List ClusterDetail → List Json → Prop
  | d :: ds, j :: js => d.Told j ∧ EachTold ds js
  | [], [] => True
  | _, _ => False

end

theorem eachTold_iff (ds : List ClusterDetail) (js : List Json) :
    EachTold ds js ↔ List.Forall₂ Told ds js := by
  induction ds generalizing js with
  | nil => cases js <;> simp [EachTold]
  | cons d ds ih => cases js <;> simp [EachTold, ih]

theorem told_iff (d : ClusterDetail) (j : Json) :
    d.Told j ↔ Tells (d.slots (IsList Told d.replicas)) j := by
  cases d
  simp only [Told, eachTold_iff]
  rfl

theorem faithful_draft {instances : Read (List InstanceDetail)} {replicas : Read (List ClusterDetail)}
    (hi : Faithful instances (IsList fun i => Tells i.slots)) (hr : Faithful replicas (IsList Told)) :
    Faithful ((draft instances replicas).read depth) Told := by
  intro j d h
  rw [told_iff]
  refine Draft.tells_of_read (fun d => d.slots (IsList Told d.replicas)) ?_ (by simp [draft])
    (by simp [draft]) h
  intro id name teamId cpu memory storage majorVersion isHA createdAt updatedAt oldestBackup
    providerId regionId state instances replicas
  simp only [slots, List.nil_append, List.cons_append]
  exact .cons (id.optional faithful_string) <| .cons (name.optional faithful_string) <|
    .cons (teamId.optional faithful_string) <| .cons (cpu.optional faithful_int32) <|
    .cons (memory.optional faithful_int32) <| .cons (storage.optional faithful_int32) <|
    .cons (majorVersion.optional faithful_int32) <| .cons (isHA.optional faithful_bool) <|
    .cons (createdAt.optional faithful_timestamp.option) <|
    .cons (updatedAt.optional faithful_timestamp.option) <|
    .cons (oldestBackup.optional faithful_timestamp.option) <|
    .cons (providerId.optional faithful_string) <| .cons (regionId.optional faithful_string) <|
    .cons (state.optional faithful_string) <| .cons (instances.optional hi) <|
    .cons (replicas.optional hr) .nil

/-- Where no container can be opened there are no replicas. -/
theorem faithful : ∀ depth, Faithful (read depth) Told
  | 0 | 1 => faithful_draft InstanceDetail.faithful.list (Faithful.list fun _ _ h => nomatch h)
  | _ + 2 => faithful_draft InstanceDetail.faithful.list (faithful _).list

end ClusterDetail

namespace ClusterList

def slots (l : ClusterList) : List Slot :=
  [.optional "clusters" (IsList ClusterDetail.Told) l.clusters [],
    .optional "total_count" IsInt64 l.totalCount 0]

theorem faithful : Faithful (read depth) fun l => Tells l.slots := by
  intro j l h
  refine Draft.tells_of_read slots ?_ (by simp) (by simp) h
  intro clusters totalCount
  exact .cons (clusters.optional (ClusterDetail.faithful _).list) <|
    .cons (totalCount.optional faithful_int64) .nil

end ClusterList

/-! ## Teams, roles, tokens and messages -/

namespace Team

def slots (t : Team) : List Slot :=
  [.required "id" IsText t.id, .optional "name" IsText t.name "",
    .optional "is_personal" IsBool t.isPersonal false]

theorem faithful : Faithful (read depth) fun t => Tells t.slots := by
  intro j t h
  refine Draft.tells_of_read slots ?_ (by simp) (by simp) h
  intro id name isPersonal
  exact .cons (id.required faithful_string) <| .cons (name.optional faithful_string) <|
    .cons (isPersonal.optional faithful_bool) .nil

end Team

namespace TeamList

def slots (l : TeamList) : List Slot :=
  [.optional "teams" (IsList fun t => Tells t.slots) l.teams []]

theorem faithful : Faithful (read depth) fun l => Tells l.slots := by
  intro j l h
  refine Draft.tells_of_read slots ?_ (by simp) (by simp) h
  intro teams
  exact .cons (teams.optional Team.faithful.list) .nil

end TeamList

namespace ConnectionRole

def slots (r : ConnectionRole) : List Slot :=
  [.optional "name" IsText r.name "", .optional "password" IsText r.password "",
    .optional "uri" IsText r.uri ""]

theorem faithful : Faithful (read depth) fun r => Tells r.slots := by
  intro j r h
  refine Draft.tells_of_read slots ?_ (by simp) (by simp) h
  intro name password uri
  exact .cons (name.optional faithful_string) <| .cons (password.optional faithful_string) <|
    .cons (uri.optional faithful_string) .nil

end ConnectionRole

namespace IssuedToken

def slots (t : IssuedToken) : List Slot :=
  [.required "access_token" IsText t.accessToken, .optional "id" IsText t.id "",
    .required "expires_in" IsUInt64 t.expiresIn]

theorem faithful : Faithful (read depth) fun t => Tells t.slots := by
  intro j t h
  refine Draft.tells_of_read slots ?_ (by simp) (by simp) h
  intro accessToken id expiresIn
  exact .cons (accessToken.required faithful_string) <| .cons (id.optional faithful_string) <|
    .cons (expiresIn.required faithful_uint64) .nil

end IssuedToken

namespace Message

def slots (m : Message) : List Slot :=
  [.optional "message" IsText m.message "", .optional "request_id" IsText m.requestId ""]

theorem faithful : Faithful (read depth) fun m => Tells m.slots := by
  intro j m h
  refine Draft.tells_of_read slots ?_ (by simp) (by simp) h
  intro message requestId
  exact .cons (message.optional faithful_string) <| .cons (requestId.optional faithful_string) .nil

end Message

end ClusterOperator.Provider
