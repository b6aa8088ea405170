import ClusterOperator.Proofs.Reconcile.Provision

/-!
# A healthy cluster converges

In a healthy world passes over a new object set it up, order its cluster, look the cluster up
until it is ready, and then do nothing any more. Each pass finds what the one before left.
-/

namespace ClusterOperator.Reconcile

open Resource (Cluster ObjectKey Metadata)
open Provider (ClusterDetail)
open Program
open Store (merge versionOf withVersion)

variable {s : Settings} {c : Cluster} {t : List (Exchange Answer)} {event : Metadata}
  {key : ObjectKey} {name : String} {p : Provision} {a b : Standing} {phase : Phase}
  {d : ClusterDetail} {result : Except Error Action} {k : Nat}

/-! ## What is planned -/

theorem plan_setup (hd : c.metadata.isDeleting = false) :
    (Plan.make (observe c .unknown)).effects =
        (if c.metadata.hasFinalizer finalizer then [] else [.addFinalizer]) ++ [.setPhase .pending] ∧
      (Plan.make (observe c .unknown)).requeue = .onChange := by
  simp only [Plan.make, observe, hd]
  exact ⟨rfl, rfl⟩

theorem plan_creation (hd : c.metadata.isDeleting = false) :
    (Plan.make (observe c .pending)).effects = [.createCluster, .setPhase .creating] ∧
      (Plan.make (observe c .pending)).requeue = .onChange := by
  simp only [Plan.make, observe, hd]
  exact ⟨rfl, rfl⟩

theorem plan_observation (hd : c.metadata.isDeleting = false) :
    (Plan.make (observe c .creating)).effects = [.observeCluster] ∧
      (Plan.make (observe c .creating)).requeue = .watchInterval := by
  simp only [Plan.make, observe, hd]
  exact ⟨rfl, rfl⟩

theorem plan_ready (hd : c.metadata.isDeleting = false) :
    (Plan.make (observe c .ready)).effects = [] ∧
      (Plan.make (observe c .ready)).requeue = .onChange := by
  simp only [Plan.make, observe, hd]
  exact ⟨rfl, rfl⟩

/-! ## Stages -/

/-- The phase that is stored after `k` passes. -/
def phaseAfter (p : Provision) : Nat → String
  | 0 => ""
  | 1 => Phase.pending.text
  | k + 2 => if k < p.ready then Phase.creating.text else Phase.ready.text

/-- How things stand after `k` passes over `c`. -/
structure Stage (c : Cluster) (p : Provision) (k : Nat) (a : Standing) : Prop where
  spec : a.stored.spec = c.spec
  staying : a.stored.metadata.isDeleting = false
  phase : a.stored.phaseText = phaseAfter p k
  observed : a.observed = min (k - 2) p.ready
  id : a.stored.clusterId = if a.observed ≤ p.hidden then none else some p.id

theorem stage_zero (hc : c.status = none) (hd : c.metadata.isDeleting = false) :
    Stage c p 0 ⟨c, 0⟩ where
  spec := rfl
  staying := hd
  phase := by simp [Cluster.phaseText, hc, phaseAfter]
  observed := by simp
  id := by simp [Cluster.clusterId, hc]

theorem id_of_entered {now : Timestamp} {v : String} (c : Cluster) :
    (withVersion (merge .status c (entered c phase now)) v).clusterId = c.clusterId :=
  (clusterId_of_status rfl).trans (entered_clusterId c phase now)

/-! ### Setting up -/

theorem Stage.guarded (hs : Stage c p 0 a) (v : String) :
    Stage c p 0 ⟨withVersion (merge .main a.stored (Reconcile.guarded a.stored)) v, a.observed⟩ :=
  ⟨hs.spec, hs.staying, hs.phase, hs.observed, hs.id⟩

theorem Stage.pending {outcome : Except Error Cluster} (hs : Stage c p 0 a)
    (h : Ends (writePhase a.stored .pending).run t outcome) (ha : Along (Well key name p) a t b) :
    Stage c p 1 b ∧ callsIn t = [] ∧ ∃ kept, outcome = .ok kept := by
  obtain ⟨rfl, hc, now, v, rfl⟩ := well_writePhase h ha
  exact ⟨⟨hs.spec, hs.staying, rfl, hs.observed, (id_of_entered a.stored).trans hs.id⟩, hc, _, rfl⟩

section
variable (hn : event.ns.isSome) (h : Ends (reconcile s event) t result)
  (ha : Along (Well event.key c.spec.name p) a t b)
include hn h ha

theorem Stage.setup (hs : Stage c p 0 a) :
    Stage c p 1 b ∧ callsIn t = [] ∧ result = .ok .awaitChange := by
  have hp : Phase.ofText? a.stored.phaseText = some .unknown := by rw [hs.phase]; rfl
  obtain ⟨u, outcome, hu, ha, hc, -, rfl⟩ := well_pass hp hn h ha
  obtain ⟨he, hr⟩ := plan_setup hs.staying
  rw [he] at hu
  rw [hc, hr]
  cases hf : a.stored.metadata.hasFinalizer finalizer with
  | true =>
    rw [hf] at hu
    obtain ⟨hb, hc, kept, rfl⟩ := hs.pending (ends_runEffects_last hu) ha
    exact ⟨hb, hc, rfl⟩
  | false =>
    rw [hf] at hu
    rcases ends_try_bind.mp hu with ⟨e, h₁, -⟩ | ⟨c', v, w, h₁, h₂, rfl⟩
    · obtain ⟨h₂, -⟩ := well_addFinalizer h₁ ha
      cases h₂
    · obtain ⟨a', ha₁, ha₂⟩ := ha.append_inv
      obtain ⟨hk, hv, n, rfl⟩ := well_addFinalizer h₁ ha₁
      cases hk
      obtain ⟨hb, hw, kept, rfl⟩ := (hs.guarded n).pending (ends_runEffects_last h₂) ha₂
      rw [callsIn_append, hv, hw]
      exact ⟨hb, rfl, rfl⟩

/-! ### Ordering the cluster -/

theorem Stage.creation (hs : Stage c p 1 a) : Stage c p 2 b ∧ (∃ team,
    callsIn t = teamCalls s c ++ [.createCluster (c.spec.createRequest team)]) ∧
    result = .ok .awaitChange := by
  have hp : Phase.ofText? a.stored.phaseText = some .pending := by rw [hs.phase]; rfl
  obtain ⟨u, outcome, hu, ha, hc, -, rfl⟩ := well_pass hp hn h ha
  obtain ⟨he, hr⟩ := plan_creation hs.staying
  rw [he] at hu
  rw [hc, hr]
  have hteam : teamCalls s a.stored = teamCalls s c := by rw [teamCalls, teamCalls, hs.spec]
  rcases ends_try_bind.mp hu with ⟨e, h₁, -⟩ | ⟨c', v, w, h₁, h₂, rfl⟩
  · obtain ⟨h₂, -⟩ := well_createCluster (ends_pass_return_error h₁) ha
    cases h₂
  · obtain ⟨a', ha₁, ha₂⟩ := ha.append_inv
    obtain ⟨_, h₃, rfl⟩ := ends_pass_return h₁
    obtain ⟨-, rfl, team, ht⟩ := well_createCluster h₃ ha₁
    obtain ⟨rfl, hw, now, n, rfl⟩ := well_writePhase (ends_runEffects_last h₂) ha₂
    refine ⟨⟨hs.spec, hs.staying, ?_, hs.observed, (id_of_entered a'.stored).trans hs.id⟩,
      ⟨team, ?_⟩, rfl⟩
    · rw [phaseAfter, if_pos (Nat.zero_lt_of_lt p.hidden_lt)]
      rfl
    · rw [callsIn_append, ht, hw, List.append_nil, hteam, hs.spec]

/-! ### Watching -/

/-- What the provider is asked at observation number `k`. -/
def observing (c : Cluster) (p : Provision) (k : Nat) : List Question :=
  if k ≤ p.hidden then [.clusterNamed c.spec.name]
  else [if k = p.hidden + 1 then .clusterNamed c.spec.name else .clusterDetail p.id,
    .connectionRole p.id]

omit hn h ha in
theorem Stage.lookupOf (hs : Stage c p (k + 2) a) (hk : k < p.ready) :
    a.observed = k ∧ lookupOf a.stored =
      if k ≤ p.hidden then .clusterNamed c.spec.name else .clusterDetail p.id := by
  have ho : a.observed = k := by rw [hs.observed]; omega
  refine ⟨ho, ?_⟩
  unfold Reconcile.lookupOf
  rw [hs.id, ho, ← hs.spec]
  by_cases hh : k ≤ p.hidden
  · rw [if_pos hh, if_pos hh]
  · rw [if_neg hh, if_neg hh]

omit hn h ha in
theorem Stage.unlisted (hs : Stage c p (k + 2) a) (hk : k < p.ready) (hh : k + 1 ≤ p.hidden) :
    Stage c p (k + 3) ⟨a.stored, k + 1⟩ where
  spec := hs.spec
  staying := hs.staying
  phase := by
    have := p.hidden_lt
    rw [hs.phase, phaseAfter, phaseAfter, if_pos hk, if_pos (by omega)]
  observed := by
    have := p.hidden_lt
    show k + 1 = min (k + 3 - 2) p.ready
    omega
  id := by
    rw [hs.id, (hs.lookupOf hk).1, if_pos (by omega)]
    exact (if_pos hh).symm

omit hn h ha in
theorem Stage.listed (hs : Stage c p (k + 2) a) (hk : k < p.ready) (hh : p.hidden < k + 1)
    (hd : p.Shows (k + 1) d) (he : d.isEmpty = false)
    (role : Except Provider.Error Provider.ConnectionRole) (now : Timestamp) (v : String) :
    Stage c p (k + 3)
      ⟨withVersion (merge .status a.stored (Reconcile.observed a.stored d role now)) v, k + 1⟩ where
  spec := hs.spec
  staying := hs.staying
  phase := by
    have hp : (Reconcile.observed a.stored d role now).phaseText = phaseAfter p (k + 3) := by
      rw [observed_phaseText, promoted_eq, hs.phase, phaseAfter, phaseAfter, if_pos hk]
      by_cases hr : k + 1 < p.ready
      · rw [hd.unready hh hr, if_pos hr]
        rfl
      · rw [hd.ready (by omega), if_neg hr]
        rfl
    exact hp
  observed := by
    show k + 1 = min (k + 3 - 2) p.ready
    omega
  id := by
    have hid : (Reconcile.observed a.stored d role now).clusterId = some p.id := by
      rw [observed_clusterId _ he, hd.listed hh]
    exact ((clusterId_of_status rfl).trans hid).trans (if_neg (by simpa using hh)).symm

theorem Stage.observation (hs : Stage c p (k + 2) a) (hk : k < p.ready) :
    Stage c p (k + 3) b ∧ callsIn t = observing c p (k + 1) ∧
      result = .ok (.requeue s.watchInterval) := by
  have hp : Phase.ofText? a.stored.phaseText = some .creating := by
    rw [hs.phase, phaseAfter, if_pos hk]
    rfl
  obtain ⟨u, outcome, hu, ha, hc, -, rfl⟩ := well_pass hp hn h ha
  obtain ⟨he, hr⟩ := plan_observation hs.staying
  rw [he] at hu
  rw [hc, hr]
  have hu : Ends (observeCluster a.stored).run u outcome := ends_runEffects_last hu
  obtain ⟨ho, hl⟩ := hs.lookupOf hk
  have hname : a.stored.spec.name = c.spec.name := by rw [hs.spec]
  have hid : ∀ id, a.stored.clusterId = some id → id = p.id := by
    intro id hid
    rw [hs.id] at hid
    split at hid
    · cases hid
    · exact (Option.some.inj hid).symm
  rw [observeCluster_eq] at hu
  rcases ends_try_bind.mp hu with ⟨e, h₁, -⟩ | ⟨d, v, w, h₁, h₂, rfl⟩
  · obtain ⟨d, hd, -⟩ := well_lookUp hname hid h₁ ha
    cases hd
  obtain ⟨a', ha₁, ha₂⟩ := ha.append_inv
  obtain ⟨d', hd, hv, hshow, rfl⟩ := well_lookUp hname hid h₁ ha₁
  cases hd
  rw [ho] at hshow ha₂
  rw [callsIn_append, hv, hl]
  unfold observing
  by_cases hh : k + 1 ≤ p.hidden
  · rw [if_pos (hshow.hidden hh)] at h₂
    obtain ⟨rfl, rfl⟩ := ends_return.mp h₂
    obtain rfl := ha₂.nil_inv
    rw [if_pos (by omega), if_pos hh]
    exact ⟨hs.unlisted hk hh, rfl, rfl⟩
  · have hlist : d.id = p.id := hshow.listed (by omega)
    have hne : d.isEmpty = false := by simpa [ClusterDetail.isEmpty, hlist] using p.id_ne
    rw [hne, if_neg (by simp)] at h₂
    obtain ⟨rfl, hw, role, now, n, rfl⟩ := well_takeOver (a := ⟨a.stored, k + 1⟩) h₂ ha₂
    rw [if_neg hh, hw, hlist]
    refine ⟨hs.listed hk (by omega) hshow hne role now n, ?_, rfl⟩
    by_cases hf : k ≤ p.hidden
    · rw [if_pos hf, if_pos (by omega)]
      rfl
    · rw [if_neg hf, if_neg (by omega)]
      rfl

/-! ### At rest -/

theorem Stage.rest (hs : Stage c p (k + 2) a) (hk : p.ready ≤ k) :
    Stage c p (k + 3) b ∧ callsIn t = [] ∧ writesIn t = [] ∧ result = .ok .awaitChange := by
  have hphase : a.stored.phaseText = Phase.ready.text := by
    rw [hs.phase, phaseAfter, if_neg (by omega)]
  have hp : Phase.ofText? a.stored.phaseText = some .ready := by rw [hphase]; rfl
  obtain ⟨u, outcome, hu, ha, hc, hw, rfl⟩ := well_pass hp hn h ha
  obtain ⟨he, hr⟩ := plan_ready hs.staying
  rw [he] at hu
  rw [hc, hw, hr]
  obtain ⟨rfl, rfl⟩ := ends_return.mp hu
  obtain rfl := ha.nil_inv
  refine ⟨⟨hs.spec, hs.staying, ?_, ?_, hs.id⟩, rfl, rfl, rfl⟩
  · rw [hphase, phaseAfter, if_neg (by omega)]
  · rw [hs.observed]
    omega

end

/-! ## The course of the passes -/

/-- What pass number `k` asks the provider, and what it returns. -/
inductive Course (s : Settings) (c : Cluster) (p : Provision) :
    Nat → List (Exchange Answer) → Except Error Action → Prop
  | setup {t : List (Exchange Answer)} : callsIn t = [] → Course s c p 1 t (.ok .awaitChange)
  | creation {t : List (Exchange Answer)} {team : String} :
    callsIn t = teamCalls s c ++ [.createCluster (c.spec.createRequest team)] →
    Course s c p 2 t (.ok .awaitChange)
  | observation {k : Nat} {t : List (Exchange Answer)} : k < p.ready →
    callsIn t = observing c p (k + 1) → Course s c p (k + 3) t (.ok (.requeue s.watchInterval))
  | rest {k : Nat} {t : List (Exchange Answer)} : p.ready ≤ k → callsIn t = [] → writesIn t = [] →
    Course s c p (k + 3) t (.ok .awaitChange)

theorem Stage.step (hs : Stage c p k a) (hn : event.ns.isSome)
    (h : Ends (reconcile s event) t result)
    (ha : Along (Well event.key c.spec.name p) a t b) :
    Stage c p (k + 1) b ∧ Course s c p (k + 1) t result := by
  match k, hs with
  | 0, hs =>
    obtain ⟨hb, hc, rfl⟩ := hs.setup hn h ha
    exact ⟨hb, .setup hc⟩
  | 1, hs =>
    obtain ⟨hb, ⟨team, hc⟩, rfl⟩ := hs.creation hn h ha
    exact ⟨hb, .creation hc⟩
  | k + 2, hs =>
    by_cases hk : k < p.ready
    · obtain ⟨hb, hc, rfl⟩ := hs.observation hn h ha hk
      exact ⟨hb, .observation hk hc⟩
    · obtain ⟨hb, hc, hw, rfl⟩ := hs.rest hn h ha (by omega)
      exact ⟨hb, .rest (by omega) hc hw⟩

def Question.isCreate : Question → Bool
  | .createCluster _ => true
  | _ => false

def Question.isLookup : Question → Bool
  | .clusterDetail _ | .clusterNamed _ => true
  | _ => false

theorem teamCalls_filter {f : Question → Bool} (hf : f .personalTeam = false) :
    (teamCalls s c).filter f = [] := by
  unfold teamCalls
  split
  · rw [List.filter_cons_of_neg (by simp [hf]), List.filter_nil]
  · rfl

theorem observing_creates : (observing c p k).filter (·.isCreate) = [] := by
  unfold observing
  split
  · rfl
  · split <;> rfl

theorem observing_lookups : (observing c p k).filter (·.isLookup) =
    [if k ≤ p.hidden + 1 then .clusterNamed c.spec.name else .clusterDetail p.id] := by
  unfold observing
  by_cases hk : k ≤ p.hidden
  · rw [if_pos hk, if_pos (by omega)]
    rfl
  · rw [if_neg hk]
    by_cases hf : k = p.hidden + 1
    · rw [if_pos hf, if_pos (by omega)]
      rfl
    · rw [if_neg hf, if_neg (by omega)]
      rfl

section
variable {r : Except Error Action}

theorem Course.created (h : Course s c p k t r) : ∃ team, (callsIn t).filter (·.isCreate) =
    if k = 2 then [.createCluster (c.spec.createRequest team)] else [] := by
  cases h with
  | setup hc => exact ⟨"", by rw [hc]; rfl⟩
  | @creation t team hc =>
    refine ⟨team, ?_⟩
    rw [hc, List.filter_append, teamCalls_filter rfl]
    rfl
  | observation _ hc => exact ⟨"", by rw [hc, observing_creates, if_neg (by omega)]⟩
  | rest _ hc _ => exact ⟨"", by rw [hc, if_neg (by omega)]; rfl⟩

theorem Course.lookups (h : Course s c p k t r) : (callsIn t).filter (·.isLookup) =
    if 3 ≤ k ∧ k ≤ p.ready + 2 then
      [if k ≤ p.hidden + 3 then .clusterNamed c.spec.name else .clusterDetail p.id] else [] := by
  cases h with
  | setup hc => rw [hc, if_neg (by omega)]; rfl
  | creation hc =>
    rw [hc, List.filter_append, teamCalls_filter rfl, if_neg (by omega)]
    rfl
  | @observation k t hk hc =>
    rw [hc, observing_lookups, if_pos (show 3 ≤ k + 3 ∧ k + 3 ≤ p.ready + 2 by omega)]
    by_cases hh : k ≤ p.hidden
    · rw [if_pos (by omega), if_pos (by omega)]
    · rw [if_neg (by omega), if_neg (by omega)]
  | rest hk hc _ => rw [hc, if_neg (by omega)]; rfl

theorem Course.outcome (h : Course s c p k t r) :
    r = .ok (if 3 ≤ k ∧ k ≤ p.ready + 2 then .requeue s.watchInterval else .awaitChange) := by
  cases h with
  | setup _ => rw [if_neg (by omega)]
  | creation _ => rw [if_neg (by omega)]
  | observation hk _ => rw [if_pos (by omega)]
  | rest hk _ _ => rw [if_neg (by omega)]

theorem Course.quiet (h : Course s c p k t r) (hk : p.ready + 2 < k) :
    callsIn t = [] ∧ writesIn t = [] := by
  have := p.hidden_lt
  cases h with
  | setup _ => omega
  | creation _ => omega
  | observation _ _ => omega
  | rest _ hc hw => exact ⟨hc, hw⟩

end

/-! ## Whole runs -/

/-- What comes of passes over `c`: the object that is stored after each, what each is told, and
what it returns. -/
structure Converges (s : Settings) (c : Cluster) (p : Provision) (stored : Nat → Cluster)
    (told : Nat → List (Exchange Answer)) (result : Nat → Except Error Action) : Prop where
  pending : (stored 1).phaseText = Phase.pending.text
  creating {k : Nat} : 2 ≤ k → k ≤ p.ready + 1 → (stored k).phaseText = Phase.creating.text
  ready {k : Nat} : p.ready + 2 ≤ k → (stored k).phaseText = Phase.ready.text
  quiet {k : Nat} : p.ready + 2 < k → callsIn (told k) = [] ∧ writesIn (told k) = []
  created : ∃ request, ∀ k, 1 ≤ k →
    (callsIn (told k)).filter (·.isCreate) = if k = 2 then [.createCluster request] else []
  lookups {k : Nat} : 1 ≤ k → (callsIn (told k)).filter (·.isLookup) =
    if 3 ≤ k ∧ k ≤ p.ready + 2 then
      [if k ≤ p.hidden + 3 then .clusterNamed c.spec.name else .clusterDetail p.id] else []
  results {k : Nat} : 1 ≤ k → result k =
    .ok (if 3 ≤ k ∧ k ≤ p.ready + 2 then .requeue s.watchInterval else .awaitChange)
  course {k : Nat} : 1 ≤ k → Course s c p k (told k) (result k)

/-- Passes with the same settings, one for each event. -/
def passAt (s : Settings) (events : Nat → Metadata) (k : Nat) :
    Program Answer (Except Error Action) := reconcile s (events k)

section
variable {σ : Type} {answer : (q : Question) → σ → Answer q × σ} {view : σ → Standing}

theorem Stage.pass {w : σ} {events : Nat → Metadata}
    (hw : ∀ q w, Well key c.spec.name p (view w) ⟨q, (answer q w).1⟩ (view (answer q w).2))
    (he : ∀ k, (events k).key = key ∧ (events k).ns.isSome)
    (hs : Stage c p k (view (after answer (passAt s events) w k))) :
    Stage c p (k + 1) (view (after answer (passAt s events) w (k + 1))) ∧
      Course s c p (k + 1) (toldIn answer (passAt s events) w (k + 1))
        (outcomeOf answer (passAt s events) w (k + 1)) := by
  obtain ⟨hkey, hn⟩ := he (k + 1)
  subst hkey
  exact hs.step hn (ends_toldIn (passAt s events) w (k + 1))
    (along_toldIn hw (passAt s events) w k)

theorem stage_after {w : σ} {events : Nat → Metadata}
    (hw : ∀ q w, Well key c.spec.name p (view w) ⟨q, (answer q w).1⟩ (view (answer q w).2))
    (he : ∀ k, (events k).key = key ∧ (events k).ns.isSome) (h₀ : Stage c p 0 (view w)) (k : Nat) :
    Stage c p k (view (after answer (passAt s events) w k)) := by
  induction k with
  | zero => exact h₀
  | succ k ih => exact (ih.pass hw he).1

/-- Passes over a new object in a healthy world bring it up and then leave it alone. -/
theorem healthy_cluster_converges {w : σ} {events : Nat → Metadata} (hc : c.status = none)
    (hd : c.metadata.isDeleting = false) (h₀ : view w = ⟨c, 0⟩)
    (hw : ∀ q w, Well key c.spec.name p (view w) ⟨q, (answer q w).1⟩ (view (answer q w).2))
    (he : ∀ k, (events k).key = key ∧ (events k).ns.isSome) :
    Converges s c p
      (fun k => (view (after answer (passAt s events) w k)).stored)
      (toldIn answer (passAt s events) w)
      (outcomeOf answer (passAt s events) w) := by
  have hz : Stage c p 0 (view w) := h₀ ▸ stage_zero hc hd
  have hp := p.hidden_lt
  have course : ∀ k, 1 ≤ k → Course s c p k (toldIn answer (passAt s events) w k)
      (outcomeOf answer (passAt s events) w k) := by
    intro k hk
    obtain ⟨k, rfl⟩ := Nat.exists_eq_add_of_le' hk
    exact ((stage_after hw he hz k).pass hw he).2
  refine ⟨(stage_after hw he hz 1).phase, ?_, ?_, fun hk => (course _ (by omega)).quiet hk, ?_,
    fun hk => (course _ hk).lookups, fun hk => (course _ hk).outcome, fun hk => course _ hk⟩
  · intro k hk hr
    obtain ⟨k, rfl⟩ := Nat.exists_eq_add_of_le' hk
    exact (stage_after hw he hz (k + 2)).phase.trans (if_pos (by omega))
  · intro k hk
    obtain ⟨k, rfl⟩ := Nat.exists_eq_add_of_le' hk
    exact (stage_after hw he hz (k + p.ready + 2)).phase.trans (if_neg (by omega))
  · obtain ⟨team, ht⟩ := (course 2 (by omega)).created
    refine ⟨c.spec.createRequest team, fun k hk => ?_⟩
    by_cases h2 : k = 2
    · subst h2
      exact ht
    · obtain ⟨team', ht'⟩ := (course k hk).created
      rw [if_neg h2] at ht' ⊢
      exact ht'

end

/-! ## A cluster that is listed late -/

namespace Sample

def shown (p : Provision) (k : Nat) : ClusterDetail :=
  if k ≤ p.hidden then .empty
  else { ClusterDetail.empty with
    id := p.id, state := if k < p.ready then "creating" else Provider.ClusterState.ready.text }

theorem shows_shown (p : Provision) (k : Nat) : p.Shows k (shown p k) := by
  have := p.hidden_lt
  unfold shown
  refine ⟨fun hk => ?_, fun hk => ?_, fun hk hr => ?_, fun hk => ?_⟩
  · rw [if_pos hk]
    rfl
  · rw [if_neg (by omega)]
  · have hc : "creating" ≠ Provider.ClusterState.ready.text := by decide
    rw [if_neg (by omega), if_pos hr]
    exact decide_eq_false hc
  · rw [if_neg (by omega), if_neg (by omega)]
    exact decide_eq_true rfl

/-- A store that counts its writes, and a provider that tells no connection. -/
def healthy (p : Provision) : (q : Question) → Standing × Nat → Answer q × (Standing × Nat)
  | .load _, w => (.ok w.1.stored, w)
  | .replaceMetadata sent, w =>
    let kept := withVersion (merge .main w.1.stored sent) (toString w.2)
    (.ok kept, ⟨kept, w.1.observed⟩, w.2 + 1)
  | .replaceStatus sent, w =>
    let kept := withVersion (merge .status w.1.stored sent) (toString w.2)
    (.ok kept, ⟨kept, w.1.observed⟩, w.2 + 1)
  | .createCluster _, w => (.error (.conflict ""), w)
  | .clusterDetail _, w =>
    (.ok (shown p (w.1.observed + 1)), ⟨w.1.stored, w.1.observed + 1⟩, w.2)
  | .clusterNamed _, w =>
    (.ok (shown p (w.1.observed + 1)), ⟨w.1.stored, w.1.observed + 1⟩, w.2)
  | .deleteCluster _, w => (.ok (), w)
  | .connectionRole _, w => (.error .notFound, w)
  | .personalTeam, w => (.ok "t0", w)
  | .loginState, w => (.active, w)
  | .now, w => (now, w)
  | .note _, w => ((), w)

theorem well_healthy (p : Provision) (q : Question) (w : Standing × Nat) :
    Well Sample.key cluster.spec.name p w.1 ⟨q, (healthy p q w).1⟩ (healthy p q w).2.1 := by
  cases q with
  | load _ => exact fun _ => ⟨rfl, rfl⟩
  | replaceMetadata _ => exact fun _ => ⟨_, rfl, rfl⟩
  | replaceStatus _ => exact fun _ => ⟨_, rfl, rfl⟩
  | createCluster _ => exact ⟨rfl, rfl⟩
  | clusterDetail _ => exact fun _ => ⟨_, rfl, shows_shown p _, rfl⟩
  | clusterNamed _ => exact fun _ => ⟨_, rfl, shows_shown p _, rfl⟩
  | deleteCluster _ => trivial
  | connectionRole _ => rfl
  | personalTeam => exact ⟨⟨_, rfl⟩, rfl⟩
  | loginState => rfl
  | now => rfl
  | note _ => rfl

/-- Not listed at first, then listed, and ready at the third look. -/
def provision : Provision := ⟨"c1", 1, 3, by decide, by decide⟩

end Sample

theorem healthy_cluster_converges_late :
    let world := Sample.healthy Sample.provision
    let passes := passAt .start fun _ => Sample.cluster.metadata
    let fresh : Standing × Nat := (⟨Sample.cluster, 0⟩, 2)
    Converges .start Sample.cluster Sample.provision (fun k => (after world passes fresh k).1.stored)
      (toldIn world passes fresh) (outcomeOf world passes fresh) :=
  healthy_cluster_converges rfl rfl rfl (Sample.well_healthy Sample.provision)
    fun _ => ⟨rfl, rfl⟩

end ClusterOperator.Reconcile
