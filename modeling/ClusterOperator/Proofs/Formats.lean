import ClusterOperator.Proofs.Provider.Codec
import ClusterOperator.Proofs.Provider.Contents
import ClusterOperator.Proofs.Resource.Codec
import ClusterOperator.Proofs.Resource.Contents

/-!
# Formats that survive being written

What was read from a text is what the text says, in whatever form the text says it, and it is
read again from the text that is written for it.
-/

namespace ClusterOperator

open Json Provider Resource

/-- A type of values that are exchanged or stored as JSON. -/
structure Format where
  Value : Type
  read : Nat → Read Value
  toJson : Value → Json
  /-- The JSON says that it is this value. -/
  means : Value → Json → Prop
  /-- How many levels of replicas there are. -/
  nesting : Value → Nat

def formats : List Format :=
  [⟨ClusterDetail, ClusterDetail.read, ClusterDetail.toJson, ClusterDetail.Told, ClusterDetail.nesting⟩,
    ⟨ClusterList, ClusterList.read, ClusterList.toJson, fun v => Tells v.slots, ClusterList.nesting⟩,
    ⟨InstanceDetail, InstanceDetail.read, InstanceDetail.toJson, fun v => Tells v.slots, fun _ => 0⟩,
    ⟨Provider.Team, Provider.Team.read, Provider.Team.toJson, fun v => Tells v.slots, fun _ => 0⟩,
    ⟨TeamList, TeamList.read, TeamList.toJson, fun v => Tells v.slots, fun _ => 0⟩,
    ⟨ConnectionRole, ConnectionRole.read, ConnectionRole.toJson, fun v => Tells v.slots, fun _ => 0⟩,
    ⟨IssuedToken, IssuedToken.read, IssuedToken.toJson, fun v => Tells v.slots, fun _ => 0⟩,
    ⟨Message, Message.read, Message.toJson, fun v => Tells v.slots, fun _ => 0⟩,
    ⟨Cluster.Spec, Cluster.Spec.read, Cluster.Spec.toJson, fun v => Tells v.slots, fun _ => 0⟩,
    ⟨Cluster.Status, Cluster.Status.read, Cluster.Status.toJson, fun v => Tells v.slots, fun _ => 0⟩,
    ⟨Team.Spec, Team.Spec.read, Team.Spec.toJson, fun v => Tells v.slots, fun _ => 0⟩,
    ⟨Team.Status, Team.Status.read, Team.Status.toJson, fun v => Tells v.slots, fun _ => 0⟩,
    ⟨Team.Condition, Team.Condition.read, Team.Condition.toJson, fun v => Tells v.slots, fun _ => 0⟩]

theorem Format.carries {T : Format} (hT : T ∈ formats) {v : T.Value} (hv : T.nesting v ≤ 60) :
    Carries (T.read depthLimit) (T.toJson v) v := by
  have hd : depthLimit = 127 := rfl
  simp only [formats, List.mem_cons, List.not_mem_nil, or_false] at hT
  rcases hT with rfl | rfl | rfl | rfl | rfl | rfl | rfl | rfl | rfl | rfl | rfl | rfl | rfl
  · exact ClusterDetail.carries _ v (by simp only at hv; omega)
  · exact ClusterList.carries v (by simp only at hv; omega)
  · exact InstanceDetail.carries v (by omega)
  · exact Team.carries v (by omega)
  · exact TeamList.carries v (by omega)
  · exact ConnectionRole.carries v (by omega)
  · exact IssuedToken.carries v (by omega)
  · exact Message.carries v (by omega)
  · exact Cluster.Spec.carries v (by omega)
  · exact Cluster.Status.carries v (by omega)
  · exact Team.Spec.carries v (by omega)
  · exact Team.Status.carries v (by omega)
  · exact Team.Condition.carries v (by omega)

theorem Format.faithful {T : Format} (hT : T ∈ formats) (depth : Nat) :
    Faithful (T.read depth) T.means := by
  simp only [formats, List.mem_cons, List.not_mem_nil, or_false] at hT
  rcases hT with rfl | rfl | rfl | rfl | rfl | rfl | rfl | rfl | rfl | rfl | rfl | rfl | rfl
  · exact ClusterDetail.faithful depth
  · exact ClusterList.faithful
  · exact InstanceDetail.faithful
  · exact Team.faithful
  · exact TeamList.faithful
  · exact ConnectionRole.faithful
  · exact IssuedToken.faithful
  · exact Message.faithful
  · exact Cluster.Spec.faithful
  · exact Cluster.Status.faithful
  · exact Team.Spec.faithful
  · exact Team.Status.faithful
  · exact Team.Condition.faithful

/-- A value of any format is read again from the text that is written for it, and that text says
what it is. And what is read from any text is what the text says: by the names of the fields or
by their order, with what was left out, null, or a point in time in any of its forms. -/
theorem written_is_read : ∀ T ∈ formats,
    (∀ v, T.nesting v ≤ 60 →
      readText (T.read depthLimit) (T.toJson v).render = .ok v ∧ T.means v (T.toJson v)) ∧
    ∀ text v, readText (T.read depthLimit) text = .ok v →
      T.means v (parse text).value ∧ (parse text).trailing = false := by
  intro T hT
  refine ⟨fun v hv => ?_, fun text v h => ?_⟩
  · have hc := Format.carries hT hv
    exact ⟨hc.readText, Format.faithful hT _ _ v hc.read_eq⟩
  · obtain ⟨hread, htrailing⟩ := read_of_readText h
    exact ⟨Format.faithful hT _ _ v hread, htrailing⟩

/-- A detail that lists a replica as an array of its fields. -/
def Sample.text : String :=
  "\x7b\"updated_at\": \"2016-12-31 18:59:60.5-05:00\", \"name\": \"\\u00e9\\n\", " ++
    "\"memory\": -4, \"replicas\": [[\"c2\"]], \"id\": \"c1\"\x7d"

/-- A leap second with an offset, an escaped name, and a replica given as an array. -/
theorem written_is_read_replica : ∃ v : ClusterDetail,
    readText (ClusterDetail.read depthLimit) Sample.text = .ok v ∧
    v.name = "é\n" ∧ v.replicas.map (·.id) = ["c2"] ∧
    v.updatedAt.map (·.toText) = some "2016-12-31T23:59:60.500Z" ∧
    v.Told (parse Sample.text).value ∧
    readText (ClusterDetail.read depthLimit) v.toJson.render = .ok v := by
  have h : ((readText (ClusterDetail.read depthLimit) Sample.text).toOption.map fun v =>
      (v.name, v.replicas.map (·.id), v.updatedAt.map (·.toText), v.nesting)) =
      some ("é\n", ["c2"], some "2016-12-31T23:59:60.500Z", 1) := by
    decide +kernel
  cases hv : readText (ClusterDetail.read depthLimit) Sample.text with
  | error e =>
    rw [hv] at h
    cases h
  | ok v =>
    rw [hv] at h
    simp only [Except.toOption, Option.map_some, Option.some.injEq, Prod.mk.injEq] at h
    obtain ⟨hname, hreplicas, hupdated, hn⟩ := h
    have hT : ⟨ClusterDetail, ClusterDetail.read, ClusterDetail.toJson, ClusterDetail.Told,
        ClusterDetail.nesting⟩ ∈ formats := List.mem_cons_self
    obtain ⟨hwritten, htext⟩ := written_is_read _ hT
    obtain ⟨htold, -⟩ := htext Sample.text v hv
    obtain ⟨hagain, -⟩ := hwritten v (by simp only; omega)
    exact ⟨v, rfl, hname, hreplicas, hupdated, htold, hagain⟩

end ClusterOperator
