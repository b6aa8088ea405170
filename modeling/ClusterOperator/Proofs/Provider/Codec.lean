import ClusterOperator.Proofs.Json.Record
import ClusterOperator.Proofs.Timestamp
import ClusterOperator.Provider.Codec

/-!
# The provider's types are read as what was written

Replicas may be nested as deep as containers can be opened for them.
-/

namespace ClusterOperator.Provider

open Json

variable {depth : Nat}

theorem carries_timestamp (t : Timestamp) : Carries readTimestamp (.string t.toText) t := by
  refine ⟨?_, trivial⟩
  unfold readTimestamp
  simp only [Timestamp.ofText?_toText]

theorem carries_writeTimestamp (t : Option Timestamp) :
    Carries (readOption readTimestamp) (writeTimestamp t) t := by
  cases t with
  | none => exact carries_none
  | some t => exact (carries_timestamp t).some (by simp)

theorem CreateRequest.carries (r : CreateRequest) (hd : depth ≠ 0) :
    Carries (read depth) r.toJson r :=
  (Draft.Fills.make CreateRequest.mk).required (by simp) (carries_string r.name)
    |>.required (by simp) (carries_string r.teamId)
    |>.required (by simp) (carries_string r.plan)
    |>.required (by simp) (carries_int32 r.storage)
    |>.required (by simp) (carries_string r.provider)
    |>.required (by simp) (carries_string r.region)
    |>.required (by simp) (carries_int32 r.majorVersion)
    |>.required (by simp) (carries_bool r.isHA)
    |>.carries hd (by simp)

theorem InstanceDetail.carries (i : InstanceDetail) (hd : depth ≠ 0) :
    Carries (read depth) i.toJson i :=
  (Draft.Fills.make InstanceDetail.mk).optional (by simp) (carries_string i.id)
    |>.optional (by simp) (carries_string i.name)
    |>.optional (by simp) (carries_string i.providerId)
    |>.optional (by simp) (carries_string i.regionId)
    |>.optional (by simp) (carries_string i.kind)
    |>.optional (by simp) (carries_string i.url)
    |>.carries hd (by simp)

theorem Team.carries (t : Team) (hd : depth ≠ 0) : Carries (read depth) t.toJson t :=
  (Draft.Fills.make Team.mk).required (by simp) (carries_string t.id)
    |>.optional (by simp) (carries_string t.name)
    |>.optional (by simp) (carries_bool t.isPersonal)
    |>.carries hd (by simp)

theorem TeamList.carries (l : TeamList) (hd : 2 < depth) : Carries (read depth) l.toJson l :=
  (Draft.Fills.make TeamList.mk).optional (by simp)
      (carries_list (by omega) fun t _ => t.carries (by omega : depth - 2 ≠ 0))
    |>.carries (by omega) (by simp)

theorem ConnectionRole.carries (r : ConnectionRole) (hd : depth ≠ 0) :
    Carries (read depth) r.toJson r :=
  (Draft.Fills.make ConnectionRole.mk).optional (by simp) (carries_string r.name)
    |>.optional (by simp) (carries_string r.password)
    |>.optional (by simp) (carries_string r.uri)
    |>.carries hd (by simp)

theorem IssuedToken.carries (t : IssuedToken) (hd : depth ≠ 0) : Carries (read depth) t.toJson t :=
  (Draft.Fills.make IssuedToken.mk).required (by simp) (carries_string t.accessToken)
    |>.optional (by simp) (carries_string t.id)
    |>.required (by simp) (carries_uint64 t.expiresIn)
    |>.carries hd (by simp)

theorem Message.carries (m : Message) (hd : depth ≠ 0) : Carries (read depth) m.toJson m :=
  (Draft.Fills.make Message.mk).optional (by simp) (carries_string m.message)
    |>.optional (by simp) (carries_string m.requestId)
    |>.carries hd (by simp)

/-! ## Clusters and their replicas -/

namespace ClusterDetail

mutual

/-- How many levels of replicas there are. -/
def nesting : ClusterDetail → Nat
  | ⟨_, _, _, _, _, _, _, _, _, _, _, _, _, _, _, replicas⟩ => nestingOf replicas

def nestingOf : List ClusterDetail → Nat
  | [] => 0
  | d :: ds => max (d.nesting + 1) (nestingOf ds)

end

theorem nesting_lt_nestingOf {d : ClusterDetail} {ds : List ClusterDetail} (h : d ∈ ds) :
    d.nesting < nestingOf ds := by
  induction ds with
  | nil => exact absurd h List.not_mem_nil
  | cons e ds ih =>
    rw [nestingOf]
    rcases List.mem_cons.mp h with rfl | h
    · omega
    · have hi := ih h
      omega

theorem listToJson_eq (ds : List ClusterDetail) :
    Json.array (listToJson ds) = .arr (ds.map toJson) := by
  unfold Json.arr
  congr 1
  induction ds with
  | nil => rfl
  | cons d ds ih => rw [listToJson, ih]; rfl

theorem carries_draft (d : ClusterDetail) {instances : Read (List InstanceDetail)}
    {replicas : Read (List ClusterDetail)}
    (hi : Carries instances (.arr (d.instances.map InstanceDetail.toJson)) d.instances)
    (hr : Carries replicas (.arr (d.replicas.map toJson)) d.replicas) (hd : depth ≠ 0) :
    Carries ((draft instances replicas).read depth) d.toJson d := by
  obtain ⟨id, name, teamId, cpu, memory, storage, majorVersion, isHA, createdAt, updatedAt,
    oldestBackup, providerId, regionId, state, instances, replicas⟩ := d
  rw [toJson, listToJson_eq]
  exact (Draft.Fills.make ClusterDetail.mk).optional (by simp) (carries_string id)
    |>.optional (by simp) (carries_string name)
    |>.optional (by simp) (carries_string teamId)
    |>.optional (by simp) (carries_int32 cpu)
    |>.optional (by simp) (carries_int32 memory)
    |>.optional (by simp) (carries_int32 storage)
    |>.optional (by simp) (carries_int32 majorVersion)
    |>.optional (by simp) (carries_bool isHA)
    |>.optional (by simp) (carries_writeTimestamp createdAt)
    |>.optional (by simp) (carries_writeTimestamp updatedAt)
    |>.optional (by simp) (carries_writeTimestamp oldestBackup)
    |>.optional (by simp) (carries_string providerId)
    |>.optional (by simp) (carries_string regionId)
    |>.optional (by simp) (carries_string state)
    |>.optional (by simp) hi
    |>.optional (by simp) hr
    |>.carries hd (by simp)

/-- Each level of replicas takes two containers, and the last has empty lists of its own. -/
theorem carries : ∀ (depth : Nat) (d : ClusterDetail), 2 * d.nesting + 3 ≤ depth →
    Carries (read depth) d.toJson d
  | 0, _, h => by omega
  | 1, _, h => by omega
  | depth + 2, d, h => by
    have hreplicas : ∀ e ∈ d.replicas, Carries (read depth) e.toJson e := by
      intro e he
      have hn := nesting_lt_nestingOf he
      have hd : d.nesting = nestingOf d.replicas := by
        cases d
        rw [nesting]
      exact carries depth e (by omega)
    unfold read
    exact d.carries_draft
      (carries_list (by omega) fun i _ => i.carries (by omega))
      (carries_list (by omega) hreplicas) (by omega)

end ClusterDetail

namespace ClusterList

/-- How many levels of replicas there are below the clusters listed. -/
def nesting (l : ClusterList) : Nat := l.clusters.foldr (fun d n => max d.nesting n) 0

theorem nesting_le {d : ClusterDetail} {ds : List ClusterDetail} (h : d ∈ ds) :
    d.nesting ≤ ds.foldr (fun d n => max d.nesting n) 0 := by
  induction ds with
  | nil => exact absurd h List.not_mem_nil
  | cons e ds ih =>
    rw [List.foldr_cons]
    rcases List.mem_cons.mp h with rfl | h
    · exact Nat.le_max_left _ _
    · exact Nat.le_trans (ih h) (Nat.le_max_right _ _)

theorem carries (l : ClusterList) (hd : 2 * l.nesting + 5 ≤ depth) :
    Carries (read depth) l.toJson l := by
  unfold toJson
  rw [ClusterDetail.listToJson_eq]
  have hc : ∀ d ∈ l.clusters, Carries (ClusterDetail.read (depth - 2)) d.toJson d := by
    intro d hm
    have hn : d.nesting ≤ l.nesting := nesting_le hm
    exact d.carries _ (by omega)
  exact (Draft.Fills.make ClusterList.mk).optional (by simp) (carries_list (by omega) hc)
    |>.optional (by simp) (carries_int64 l.totalCount)
    |>.carries (by omega) (by simp)

end ClusterList

end ClusterOperator.Provider
