import ClusterOperator.Proofs.Program.Transcript
import ClusterOperator.Reconcile.Pass

/-!
# What a pass knows when it asks

For each effect: what it asks after a transcript, and what it was told when it
succeeds.
-/

namespace ClusterOperator.Reconcile

open Resource (Cluster ObjectKey Metadata)
open Provider (ClusterDetail ConnectionRole)
open Program

variable {s : Settings} {c c' sent : Cluster} {phase : Phase} {told : List (Exchange Answer)}
  {q r : Question} {α β : Type}

/-! ## Questions of a pass -/

theorem asks_ask_bind {f : Answer q → Pass β} : Asks (ask q >>= f).run told r ↔
    (told = [] ∧ r = q) ∨ ∃ a t, told = ⟨q, a⟩ :: t ∧ Asks (f a).run t r := asks_lift_bind

theorem ends_ask_bind {f : Answer q → Pass β} {b : Except Error β} :
    Ends (ask q >>= f).run told b ↔ ∃ a t, told = ⟨q, a⟩ :: t ∧ Ends (f a).run t b := ends_lift_bind

section
variable {ε : Type} {p : Program Answer (Except ε α)} {f : ε → Error} {a : α} {e : Error}

theorem asks_mapError : Asks (p.bind fun r => .done (r.mapError f)) told q ↔ Asks p told q := by
  refine Iff.trans asks_bind ?_
  simp [asks_done]

theorem ends_mapError :
    Ends (p.bind fun r => .done (r.mapError f)) told (.ok a) ↔ Ends p told (.ok a) := by
  refine Iff.trans ends_bind ⟨?_, ?_⟩
  · rintro ⟨d, t, u, ht, hu, rfl⟩
    obtain ⟨rfl, h⟩ := ends_done.mp hu
    cases d <;> cases h
    simpa using ht
  · exact fun h => ⟨.ok a, told, [], h, .now, by simp⟩

theorem ends_mapError_error : Ends (p.bind fun r => .done (r.mapError f)) told (.error e) ↔
    ∃ d, Ends p told (.error d) ∧ e = f d := by
  refine Iff.trans ends_bind ⟨?_, ?_⟩
  · rintro ⟨d, t, u, ht, hu, rfl⟩
    obtain ⟨rfl, h⟩ := ends_done.mp hu
    cases d <;> cases h
    exact ⟨_, by simpa using ht, rfl⟩
  · rintro ⟨d, h, rfl⟩
    exact ⟨.error d, told, [], h, .now, by simp⟩

end

theorem asks_fromStore {p : Program Answer (Except Store.Error α)} :
    Asks (fromStore p).run told q ↔ Asks p told q := asks_mapError

theorem ends_fromStore {p : Program Answer (Except Store.Error α)} {a : α} :
    Ends (fromStore p).run told (.ok a) ↔ Ends p told (.ok a) := ends_mapError

theorem ends_fromStore_error {p : Program Answer (Except Store.Error α)} {e : Error} :
    Ends (fromStore p).run told (.error e) ↔ ∃ d, Ends p told (.error d) ∧ e = .store d :=
  ends_mapError_error

theorem asks_fromProvider {p : Program Answer (Except Provider.Error α)} :
    Asks (fromProvider p).run told q ↔ Asks p told q := asks_mapError

theorem ends_fromProvider {p : Program Answer (Except Provider.Error α)} {a : α} :
    Ends (fromProvider p).run told (.ok a) ↔ Ends p told (.ok a) := ends_mapError

theorem ends_fromProvider_error {p : Program Answer (Except Provider.Error α)} {e : Error} :
    Ends (fromProvider p).run told (.error e) ↔ ∃ d, Ends p told (.error d) ∧ e = .provider d :=
  ends_mapError_error

theorem asks_return {a : α} : ¬ Asks (pure a : Pass α).run told q := asks_done

theorem ends_return {a : α} {b : Except Error α} :
    Ends (pure a : Pass α).run told b ↔ told = [] ∧ b = .ok a := ends_done

/-! ## Phase writes -/

def entered (c : Cluster) (phase : Phase) (now : Timestamp) : Cluster :=
  { c with status := some ((c.status.getD .empty).enter phase now) }

@[simp] theorem entered_clusterId (c : Cluster) (phase : Phase) (now : Timestamp) :
    (entered c phase now).clusterId = c.clusterId := by
  unfold Cluster.clusterId entered
  cases c.status <;> rfl

/-- What a phase write asks, and after what. -/
inductive Enters (c : Cluster) (phase : Phase) : List (Exchange Answer) → Question → Prop
  | now : Enters c phase [] .now
  | write {now : Timestamp} :
    Enters c phase [⟨.now, now⟩] (.replaceStatus (entered c phase now))
  | note {now : Timestamp} {kept : Cluster} :
    Enters c phase [⟨.now, now⟩, ⟨.replaceStatus (entered c phase now), .ok kept⟩]
      (.note (.moved (Phase.shown c.phaseText) phase.text))

theorem asks_writePhase (h : Asks (writePhase c phase).run told q) : Enters c phase told q := by
  rcases asks_ask_bind.mp h with ⟨rfl, rfl⟩ | ⟨now, t, rfl, h₁⟩
  · exact .now
  rcases asks_try_bind.mp h₁ with h₂ | ⟨kept, u, t, hu, h₂, rfl⟩
  · obtain ⟨rfl, rfl⟩ := asks_query.mp (asks_fromStore.mp h₂)
    exact .write
  obtain rfl := ends_query.mp (ends_fromStore.mp hu)
  rcases asks_ask_bind.mp h₂ with ⟨rfl, rfl⟩ | ⟨_, t, rfl, h₃⟩
  · exact .note
  · exact absurd h₃ asks_return

theorem ends_writePhase (h : Ends (writePhase c phase).run told (.ok c')) :
    ∃ now, told = [⟨.now, now⟩, ⟨.replaceStatus (entered c phase now), .ok c'⟩,
      ⟨.note (.moved (Phase.shown c.phaseText) phase.text), ()⟩] := by
  obtain ⟨now, t, rfl, h₁⟩ := ends_ask_bind.mp h
  rcases ends_try_bind.mp h₁ with ⟨e, -, h₂⟩ | ⟨d, u, t, hu, h₂, rfl⟩
  · cases h₂
  obtain rfl := ends_query.mp (ends_fromStore.mp hu)
  obtain ⟨_, t, rfl, h₃⟩ := ends_ask_bind.mp h₂
  obtain ⟨rfl, h₄⟩ := ends_return.mp h₃
  cases h₄
  exact ⟨now, rfl⟩

theorem ends_writePhase_error {e : Error} (h : Ends (writePhase c phase).run told (.error e)) :
    ∃ now d, told = [⟨.now, now⟩, ⟨.replaceStatus (entered c phase now), .error d⟩] ∧
      e = .store d := by
  obtain ⟨now, t, rfl, h₁⟩ := ends_ask_bind.mp h
  rcases ends_try_bind.mp h₁ with ⟨e', h₂, h₃⟩ | ⟨d, u, t, hu, h₂, rfl⟩
  · cases h₃
    obtain ⟨d, h₃, rfl⟩ := ends_fromStore_error.mp h₂
    obtain rfl := ends_query.mp h₃
    exact ⟨now, d, rfl, rfl⟩
  · obtain ⟨_, t, rfl, h₃⟩ := ends_ask_bind.mp h₂
    obtain ⟨-, h₄⟩ := ends_return.mp h₃
    cases h₄

theorem asks_markDeleting (h : Asks (runEffect s c .markDeleting).run told q) :
    c.phaseText ≠ Phase.deleting.text ∧ Asks (writePhase c .deleting).run told q := by
  simp only [runEffect] at h
  split at h
  · exact absurd h asks_return
  · rcases asks_tryCatch.mp h with h₁ | ⟨e, u, t, -, h₁, rfl⟩
    · exact ⟨‹_›, h₁⟩
    · exact absurd h₁ asks_return

theorem ends_markDeleting (h : Ends (runEffect s c .markDeleting).run told (.ok c')) :
    (c' = c ∧ (told = [] ∨ ∃ now d,
      told = [⟨.now, now⟩, ⟨.replaceStatus (entered c .deleting now), .error d⟩])) ∨
      ∃ now, told = [⟨.now, now⟩, ⟨.replaceStatus (entered c .deleting now), .ok c'⟩,
        ⟨.note (.moved (Phase.shown c.phaseText) Phase.deleting.text), ()⟩] := by
  simp only [runEffect] at h
  split at h
  · obtain ⟨rfl, h₁⟩ := ends_return.mp h
    cases h₁
    exact .inl ⟨rfl, .inl rfl⟩
  · rcases ends_tryCatch.mp h with ⟨a, h₁, h₂⟩ | ⟨e, u, t, hu, h₁, rfl⟩
    · cases h₂
      exact .inr (ends_writePhase h₁)
    · obtain ⟨rfl, h₂⟩ := ends_return.mp h₁
      cases h₂
      obtain ⟨now, d, rfl, -⟩ := ends_writePhase_error hu
      exact .inl ⟨rfl, .inr ⟨now, d, by simp⟩⟩

/-! ## Creating -/

theorem asks_resolveTeam (h : Asks (resolveTeam s c).run told q) :
    told = [] ∧ q = .personalTeam ∧ (c.spec.team? <|> s.team) = none := by
  unfold resolveTeam at h
  split at h
  · exact absurd h asks_return
  · obtain ⟨rfl, rfl⟩ := asks_query.mp (asks_fromProvider.mp h)
    exact ⟨rfl, rfl, ‹_›⟩

theorem ends_resolveTeam {team : String} (h : Ends (resolveTeam s c).run told (.ok team)) :
    ((c.spec.team? <|> s.team) = some team ∧ told = []) ∨
      ((c.spec.team? <|> s.team) = none ∧ told = [⟨.personalTeam, .ok team⟩]) := by
  unfold resolveTeam at h
  split at h
  · obtain ⟨rfl, h₁⟩ := ends_return.mp h
    cases h₁
    exact .inl ⟨‹_›, rfl⟩
  · obtain rfl := ends_query.mp (ends_fromProvider.mp h)
    exact .inr ⟨‹_›, rfl⟩

/-- Whether an answer to a create lets the phase advance. -/
def tookCreate : Except Provider.Error Unit → Bool
  | .ok () => true
  | .error (.conflict _) => true
  | .error _ => false

theorem asks_createCluster (h : Asks (createCluster s c).run told q) :
    Asks (resolveTeam s c).run told q ∨
      ∃ team, Ends (resolveTeam s c).run told (.ok team) ∧
        q = .createCluster (c.spec.createRequest team) := by
  rcases asks_try_bind.mp h with h₁ | ⟨team, u, t, hu, h₁, rfl⟩
  · exact .inl h₁
  right
  rcases asks_ask_bind.mp h₁ with ⟨rfl, rfl⟩ | ⟨a, t, rfl, h₂⟩
  · exact ⟨team, by simpa using hu, rfl⟩
  · split at h₂ <;> exact absurd h₂ asks_done

theorem ends_createCluster (h : Ends (createCluster s c).run told (.ok ())) :
    ∃ team u a, Ends (resolveTeam s c).run u (.ok team) ∧ tookCreate a ∧
      told = u ++ [⟨.createCluster (c.spec.createRequest team), a⟩] := by
  rcases ends_try_bind.mp h with ⟨e, -, h₁⟩ | ⟨team, u, t, hu, h₁, rfl⟩
  · cases h₁
  obtain ⟨a, t, rfl, h₂⟩ := ends_ask_bind.mp h₁
  refine ⟨team, u, a, hu, ?_⟩
  split at h₂
  · obtain ⟨rfl, -⟩ := ends_return.mp h₂
    exact ⟨rfl, rfl⟩
  · obtain ⟨rfl, -⟩ := ends_return.mp h₂
    exact ⟨rfl, rfl⟩
  · obtain ⟨-, h₃⟩ := ends_done.mp h₂
    cases h₃

theorem ends_resolveTeam_error {e : Error} (h : Ends (resolveTeam s c).run told (.error e)) :
    ∃ d, told = [⟨.personalTeam, .error d⟩] ∧ e = .provider d := by
  unfold resolveTeam at h
  split at h
  · cases (ends_return.mp h).2
  · obtain ⟨d, h₁, rfl⟩ := ends_fromProvider_error.mp h
    exact ⟨d, ends_query.mp h₁, rfl⟩

theorem ends_createCluster_error {e : Error} (h : Ends (createCluster s c).run told (.error e)) :
    ∃ d, e = .provider d ∧ (told = [⟨.personalTeam, .error d⟩] ∨
      ∃ team u, Ends (resolveTeam s c).run u (.ok team) ∧ tookCreate (.error d) = false ∧
        told = u ++ [⟨.createCluster (c.spec.createRequest team), .error d⟩]) := by
  rcases ends_try_bind.mp h with ⟨e, h₁, h₂⟩ | ⟨team, u, t, hu, h₁, rfl⟩
  · cases h₂
    obtain ⟨d, ht, rfl⟩ := ends_resolveTeam_error h₁
    exact ⟨d, rfl, .inl ht⟩
  · obtain ⟨a, t, rfl, h₂⟩ := ends_ask_bind.mp h₁
    split at h₂
    · cases (ends_return.mp h₂).2
    · cases (ends_return.mp h₂).2
    next d hd =>
      obtain ⟨rfl, h₃⟩ := ends_done.mp h₂
      cases h₃
      refine ⟨d, rfl, .inr ⟨team, u, hu, ?_, rfl⟩⟩
      cases d <;> first | rfl | exact absurd rfl (hd _)

/-! ## Observing -/

theorem asks_lookUp (h : Asks (lookUp c).run told q) : told = [] ∧
    ((∃ id, c.clusterId = some id ∧ q = .clusterDetail id) ∨
      (c.clusterId = none ∧ q = .clusterNamed c.spec.name)) := by
  unfold lookUp at h
  split at h
  · obtain ⟨rfl, rfl⟩ := asks_query.mp (asks_fromProvider.mp h)
    exact ⟨rfl, .inl ⟨_, ‹_›, rfl⟩⟩
  · obtain ⟨rfl, rfl⟩ := asks_query.mp (asks_fromProvider.mp h)
    exact ⟨rfl, .inr ⟨‹_›, rfl⟩⟩

theorem ends_lookUp {d : ClusterDetail} (h : Ends (lookUp c).run told (.ok d)) :
    (∃ id, c.clusterId = some id ∧ told = [⟨.clusterDetail id, .ok d⟩]) ∨
      (c.clusterId = none ∧ told = [⟨.clusterNamed c.spec.name, .ok d⟩]) := by
  unfold lookUp at h
  split at h
  · exact .inl ⟨_, ‹_›, ends_query.mp (ends_fromProvider.mp h)⟩
  · exact .inr ⟨‹_›, ends_query.mp (ends_fromProvider.mp h)⟩

theorem ends_lookUp_error {e : Error} (h : Ends (lookUp c).run told (.error e)) :
    ∃ d, e = .provider d ∧ ((∃ id, c.clusterId = some id ∧ told = [⟨.clusterDetail id, .error d⟩]) ∨
      (c.clusterId = none ∧ told = [⟨.clusterNamed c.spec.name, .error d⟩])) := by
  unfold lookUp at h
  split at h
  · obtain ⟨d, h₁, rfl⟩ := ends_fromProvider_error.mp h
    exact ⟨d, rfl, .inl ⟨_, ‹_›, ends_query.mp h₁⟩⟩
  · obtain ⟨d, h₁, rfl⟩ := ends_fromProvider_error.mp h
    exact ⟨d, rfl, .inr ⟨‹_›, ends_query.mp h₁⟩⟩

/-- The status with what a role tells of the connection, if it does. -/
def connected (status : Cluster.Status) : Except Provider.Error ConnectionRole → Cluster.Status
  | .ok role =>
    match status.connect role with
    | .ok connected => connected
    | .error _ => status
  | .error _ => status

def observed (c : Cluster) (d : ClusterDetail) (role : Except Provider.Error ConnectionRole)
    (now : Timestamp) : Cluster :=
  { c with
    status := some ({ connected { c.status.getD .empty with cluster := .ofDetail d } role with
      phase := promoted (c.status.getD .empty).phase d }.stamp now) }

theorem clusterId_of_status {a b : Cluster} (h : a.status = b.status) :
    a.clusterId = b.clusterId := by
  rw [Cluster.clusterId, Cluster.clusterId, h]

theorem phase_getD (c : Cluster) : (c.status.getD .empty).phase = c.phaseText := by
  unfold Cluster.phaseText
  cases c.status <;> rfl

theorem promoted_eq (phase : String) (d : ClusterDetail) :
    promoted phase d = if d.isReady then Phase.ready.text else phase := rfl

theorem observed_phaseText (c : Cluster) (d : ClusterDetail)
    (role : Except Provider.Error ConnectionRole) (now : Timestamp) :
    (observed c d role now).phaseText = promoted c.phaseText d := by
  rw [← phase_getD c]
  rfl

theorem connected_cluster (status : Cluster.Status) (role : Except Provider.Error ConnectionRole) :
    (connected status role).cluster = status.cluster := by
  unfold connected Cluster.Status.connect
  cases role with
  | error e => rfl
  | ok role => cases h : Cluster.stripUserInfo role.uri <;> simp only [h]

theorem observed_clusterId (c : Cluster) {d : ClusterDetail} (h : d.isEmpty = false)
    (role : Except Provider.Error ConnectionRole) (now : Timestamp) :
    (observed c d role now).clusterId = some d.id := by
  simp only [observed, Cluster.clusterId, Cluster.Status.stamp, Option.map_some, connected_cluster]
  exact Option.filter_some_pos (by simpa [ClusterDetail.isEmpty, Cluster.Summary.ofDetail] using h)

inductive Takes (c : Cluster) (d : ClusterDetail) : List (Exchange Answer) → Question → Prop
  | role : Takes c d [] (.connectionRole d.id)
  | now {role : Except Provider.Error ConnectionRole} :
    Takes c d [⟨.connectionRole d.id, role⟩] .now
  | write {role : Except Provider.Error ConnectionRole} {now : Timestamp} :
    Takes c d [⟨.connectionRole d.id, role⟩, ⟨.now, now⟩] (.replaceStatus (observed c d role now))
  | note {role : Except Provider.Error ConnectionRole} {now : Timestamp} {kept : Cluster} :
    promoted (c.status.getD .empty).phase d ≠ (c.status.getD .empty).phase →
    Takes c d [⟨.connectionRole d.id, role⟩, ⟨.now, now⟩,
        ⟨.replaceStatus (observed c d role now), .ok kept⟩]
      (.note (.moved (Phase.shown (c.status.getD .empty).phase) Phase.ready.text))

/-- What follows the lookup, with the object that is sent by its name. -/
def takeOver (c : Cluster) (d : ClusterDetail) : Pass Cluster := do
  let role ← ask (.connectionRole d.id)
  let now ← ask .now
  let stored ← fromStore (.query (Question.replaceStatus (observed c d role now)))
  if promoted (c.status.getD .empty).phase d ≠ (c.status.getD .empty).phase then
    ask (.note (.moved (Phase.shown (c.status.getD .empty).phase) Phase.ready.text))
  return stored

theorem observeCluster_eq (c : Cluster) :
    observeCluster c = lookUp c >>= fun d => if d.isEmpty then return c else takeOver c d := by
  unfold observeCluster
  congr 1
  funext d
  by_cases he : d.isEmpty
  · simp only [he, if_true]
  · simp only [he, Bool.false_eq_true, if_false, Cluster.Status.takeDetail]
    refine congrArg (ask (.connectionRole d.id) >>= ·) (funext fun role => ?_)
    -- the object that is sent is `observed c d role now` in either case
    cases role with
    | error e => rfl
    | ok role => rfl

theorem asks_takeOver {d : ClusterDetail} (h : Asks (takeOver c d).run told q) :
    Takes c d told q := by
  rcases asks_ask_bind.mp h with ⟨rfl, rfl⟩ | ⟨role, t, rfl, h₁⟩
  · exact .role
  rcases asks_ask_bind.mp h₁ with ⟨rfl, rfl⟩ | ⟨now, t, rfl, h₂⟩
  · exact .now
  rcases asks_try_bind.mp h₂ with h₃ | ⟨kept, u, t, hu, h₃, rfl⟩
  · obtain ⟨rfl, rfl⟩ := asks_query.mp (asks_fromStore.mp h₃)
    exact .write
  obtain rfl := ends_query.mp (ends_fromStore.mp hu)
  split at h₃
  next hp =>
    rcases asks_ask_bind.mp h₃ with ⟨rfl, rfl⟩ | ⟨_, t, rfl, h₄⟩
    · exact .note hp
    · exact absurd h₄ asks_return
  · exact absurd h₃ asks_return

theorem ends_takeOver {d : ClusterDetail} (h : Ends (takeOver c d).run told (.ok c')) :
    ∃ role now t, told = ⟨.connectionRole d.id, role⟩ :: ⟨.now, now⟩ ::
      ⟨.replaceStatus (observed c d role now), .ok c'⟩ :: t ∧ ∀ x ∈ t, ∃ n, x.question = .note n := by
  obtain ⟨role, t, rfl, h₁⟩ := ends_ask_bind.mp h
  obtain ⟨now, t, rfl, h₂⟩ := ends_ask_bind.mp h₁
  rcases ends_try_bind.mp h₂ with ⟨e, -, h₃⟩ | ⟨kept, u, t, hu, h₃, rfl⟩
  · cases h₃
  obtain rfl := ends_query.mp (ends_fromStore.mp hu)
  split at h₃
  · obtain ⟨_, t, rfl, h₄⟩ := ends_ask_bind.mp h₃
    obtain ⟨rfl, h₅⟩ := ends_return.mp h₄
    cases h₅
    exact ⟨role, now, _, rfl, by simp⟩
  · obtain ⟨rfl, h₄⟩ := ends_return.mp h₃
    cases h₄
    exact ⟨role, now, _, rfl, by simp⟩

theorem ends_takeOver_error {d : ClusterDetail} {e : Error}
    (h : Ends (takeOver c d).run told (.error e)) : ∃ role now f,
      told = [⟨.connectionRole d.id, role⟩, ⟨.now, now⟩,
        ⟨.replaceStatus (observed c d role now), .error f⟩] ∧ e = .store f := by
  obtain ⟨role, t, rfl, h₁⟩ := ends_ask_bind.mp h
  obtain ⟨now, t, rfl, h₂⟩ := ends_ask_bind.mp h₁
  rcases ends_try_bind.mp h₂ with ⟨e', h₃, h₄⟩ | ⟨kept, u, t, hu, h₃, rfl⟩
  · cases h₄
    obtain ⟨f, h₅, rfl⟩ := ends_fromStore_error.mp h₃
    obtain rfl := ends_query.mp h₅
    exact ⟨role, now, f, rfl, rfl⟩
  · split at h₃
    · obtain ⟨_, t, rfl, h₄⟩ := ends_ask_bind.mp h₃
      cases (ends_return.mp h₄).2
    · cases (ends_return.mp h₃).2

theorem asks_observeCluster (h : Asks (observeCluster c).run told q) :
    Asks (lookUp c).run told q ∨ ∃ d u t, Ends (lookUp c).run u (.ok d) ∧ d.isEmpty = false ∧
      told = u ++ t ∧ Takes c d t q := by
  rw [observeCluster_eq] at h
  rcases asks_try_bind.mp h with h₁ | ⟨d, u, t, hu, h₁, rfl⟩
  · exact .inl h₁
  split at h₁
  · exact absurd h₁ asks_return
  next he => exact .inr ⟨d, u, t, hu, by simpa using he, rfl, asks_takeOver h₁⟩

/-! ## Deleting -/

def tookDelete : Except Provider.Error Unit → Bool
  | .ok () => true
  | .error .notFound => true
  | .error _ => false

theorem asks_deleteCluster {id : String} (h : Asks (deleteCluster id).run told q) :
    told = [] ∧ q = .deleteCluster id := by
  rcases asks_ask_bind.mp h with h₁ | ⟨a, t, rfl, h₁⟩
  · exact h₁
  · split at h₁ <;> exact absurd h₁ asks_done

theorem ends_deleteCluster {id : String} (h : Ends (deleteCluster id).run told (.ok ())) :
    ∃ a, told = [⟨.deleteCluster id, a⟩] ∧ tookDelete a := by
  obtain ⟨a, t, rfl, h₁⟩ := ends_ask_bind.mp h
  refine ⟨a, ?_⟩
  split at h₁
  · obtain ⟨rfl, -⟩ := ends_return.mp h₁
    exact ⟨rfl, rfl⟩
  · obtain ⟨rfl, -⟩ := ends_return.mp h₁
    exact ⟨rfl, rfl⟩
  · obtain ⟨-, h₂⟩ := ends_done.mp h₁
    cases h₂

theorem ends_deleteCluster_error {id : String} {e : Error}
    (h : Ends (deleteCluster id).run told (.error e)) :
    ∃ a d, told = [⟨.deleteCluster id, a⟩] ∧ tookDelete a = false ∧ e = .provider d := by
  obtain ⟨a, t, rfl, h₁⟩ := ends_ask_bind.mp h
  split at h₁
  · cases (ends_return.mp h₁).2
  · cases (ends_return.mp h₁).2
  next d hd =>
    obtain ⟨rfl, h₂⟩ := ends_done.mp h₁
    cases h₂
    refine ⟨_, d, rfl, ?_, rfl⟩
    cases d <;> first | rfl | exact absurd rfl hd

/-! ## Effects in order -/

def guarded (c : Cluster) : Cluster :=
  { c with metadata := c.metadata.addFinalizer finalizer }

def released (c : Cluster) : Cluster :=
  { c with metadata := c.metadata.removeFinalizer finalizer }

theorem guarded_hasFinalizer (c : Cluster) : (guarded c).metadata.hasFinalizer finalizer := by
  simp [guarded, Resource.Metadata.addFinalizer, Resource.Metadata.hasFinalizer,
    Resource.Metadata.finalizerList]

theorem asks_runEffects_cons {e : Effect} {es : List Effect} :
    Asks (runEffects s c (e :: es)).run told q ↔ Asks (runEffect s c e).run told q ∨
      ∃ c' t u, Ends (runEffect s c e).run t (.ok c') ∧ Asks (runEffects s c' es).run u q ∧
        told = t ++ u := asks_try_bind

theorem asks_runEffects_last {e : Effect} (h : Asks (runEffects s c [e]).run told q) :
    Asks (runEffect s c e).run told q := by
  rcases asks_runEffects_cons.mp h with h₁ | ⟨c', t, u, -, h₁, -⟩
  · exact h₁
  · exact absurd h₁ asks_return

theorem ends_runEffects_last {e : Effect} {r : Except Error Cluster}
    (h : Ends (runEffects s c [e]).run told r) : Ends (runEffect s c e).run told r := by
  rcases ends_try_bind.mp h with ⟨d, h₁, rfl⟩ | ⟨c', u, v, h₁, h₂, rfl⟩
  · exact h₁
  · obtain ⟨rfl, rfl⟩ := ends_return.mp h₂
    rw [List.append_nil]
    exact h₁

theorem ends_runEffects_append {es es' : List Effect} {t u : List (Exchange Answer)}
    {b : Except Error Cluster} (h : Ends (runEffects s c es).run t (.ok c'))
    (h' : Ends (runEffects s c' es').run u b) :
    Ends (runEffects s c (es ++ es')).run (t ++ u) b := by
  induction es generalizing c t with
  | nil =>
    obtain ⟨rfl, h₁⟩ := ends_return.mp h
    cases h₁
    exact h'
  | cons e es ih =>
    rcases ends_try_bind.mp h with ⟨_, -, h₁⟩ | ⟨c₁, v, w, h₁, h₂, rfl⟩
    · cases h₁
    rw [List.append_assoc]
    exact h₁.try_bind (ih h₂)

theorem ends_pass_return {x : Pass α} {f : α → β} {b : β}
    (h : Ends (x >>= fun a => (pure (f a) : Pass β)).run told (.ok b)) :
    ∃ a, Ends x.run told (.ok a) ∧ b = f a := by
  rcases ends_try_bind.mp h with ⟨e, -, h₁⟩ | ⟨a, u, t, hu, h₁, rfl⟩
  · cases h₁
  · obtain ⟨rfl, h₂⟩ := ends_return.mp h₁
    cases h₂
    exact ⟨a, by simpa using hu, rfl⟩

theorem ends_pass_return_error {x : Pass α} {f : α → β} {e : Error}
    (h : Ends (x >>= fun a => (pure (f a) : Pass β)).run told (.error e)) :
    Ends x.run told (.error e) := by
  rcases ends_try_bind.mp h with ⟨d, hx, h₁⟩ | ⟨a, u, t, -, h₁, -⟩
  · cases h₁
    exact hx
  · cases (ends_return.mp h₁).2

theorem asks_pass_return {x : Pass α} {f : α → β}
    (h : Asks (x >>= fun a => (pure (f a) : Pass β)).run told q) : Asks x.run told q := by
  rcases asks_try_bind.mp h with h₁ | ⟨a, u, t, hu, h₁, rfl⟩
  · exact h₁
  · exact absurd h₁ asks_return

end ClusterOperator.Reconcile
