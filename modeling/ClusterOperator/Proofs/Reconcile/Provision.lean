import ClusterOperator.Proofs.Program.Performance
import ClusterOperator.Proofs.Reconcile.Service

/-!
# Passes in a healthy world

A store that takes every write, and a provider that takes the order of a cluster, lists it some
time later and reports it ready some time after that. Each effect does what it is for there.
-/

namespace ClusterOperator.Reconcile

open Resource (Cluster ObjectKey Metadata)
open Kubernetes (Part)
open Provider (ClusterDetail ConnectionRole)
open Program
open Store (merge versionOf withVersion)

/-! ## The world -/

/-- A cluster that is not listed in the first `hidden` observations, and is ready in observation
number `ready` for the first time. -/
structure Provision where
  id : String
  hidden : Nat
  ready : Nat
  id_ne : id ≠ ""
  hidden_lt : hidden < ready

/-- What observation number `k` shows. -/
structure Provision.Shows (p : Provision) (k : Nat) (d : ClusterDetail) : Prop where
  hidden : k ≤ p.hidden → d.isEmpty
  listed : p.hidden < k → d.id = p.id
  unready : p.hidden < k → k < p.ready → d.isReady = false
  ready : k = p.ready → d.isReady

/-- What is stored, and how often the cluster was looked up. -/
structure Standing where
  stored : Cluster
  observed : Nat

/-- A write is accepted from who has seen what is stored. -/
def Standing.Accepts (a : Standing) (part : Part) (sent : Cluster) (r : Except Store.Error Cluster)
    (b : Standing) : Prop :=
  versionOf sent = versionOf a.stored → ∃ v,
    r = .ok (withVersion (merge part a.stored sent) v) ∧
      b = ⟨withVersion (merge part a.stored sent) v, a.observed⟩

def Standing.Observes (a : Standing) (p : Provision) (r : Except Provider.Error ClusterDetail)
    (b : Standing) : Prop :=
  ∃ d, r = .ok d ∧ p.Shows (a.observed + 1) d ∧ b = ⟨a.stored, a.observed + 1⟩

/-- An answer that is as good as it can be. The connection may fail to be told. -/
def Well (key : ObjectKey) (name : String) (p : Provision) (a : Standing) :
    Exchange Answer → Standing → Prop
  | ⟨.load k, r⟩, b => k = key → r = .ok a.stored ∧ b = a
  | ⟨.replaceMetadata sent, r⟩, b => a.Accepts .main sent r b
  | ⟨.replaceStatus sent, r⟩, b => a.Accepts .status sent r b
  | ⟨.createCluster _, r⟩, b => tookCreate r ∧ b = a
  | ⟨.clusterDetail id, r⟩, b => id = p.id → a.Observes p r b
  | ⟨.clusterNamed n, r⟩, b => n = name → a.Observes p r b
  | ⟨.deleteCluster _, _⟩, _ => True
  | ⟨.personalTeam, r⟩, b => (∃ team, r = .ok team) ∧ b = a
  | ⟨.connectionRole _, _⟩, b => b = a
  | ⟨.loginState, _⟩, b => b = a
  | ⟨.now, _⟩, b => b = a
  | ⟨.note _, _⟩, b => b = a

/-! ## Calls and writes -/

def Question.isCall : Question → Bool
  | .createCluster _ | .clusterDetail _ | .clusterNamed _ | .deleteCluster _ | .connectionRole _
  | .personalTeam => true
  | _ => false

def Question.isWrite : Question → Bool
  | .replaceMetadata _ | .replaceStatus _ => true
  | _ => false

/-- What the provider is asked, in order. -/
def callsIn (t : List (Exchange Answer)) : List Question := (t.map (·.question)).filter (·.isCall)

def writesIn (t : List (Exchange Answer)) : List Question := (t.map (·.question)).filter (·.isWrite)

@[simp] theorem callsIn_append (t u : List (Exchange Answer)) :
    callsIn (t ++ u) = callsIn t ++ callsIn u := by
  rw [callsIn, List.map_append, List.filter_append, ← callsIn, ← callsIn]

@[simp] theorem writesIn_append (t u : List (Exchange Answer)) :
    writesIn (t ++ u) = writesIn t ++ writesIn u := by
  rw [writesIn, List.map_append, List.filter_append, ← writesIn, ← writesIn]

theorem filter_idle {f : Question → Bool} (hf : ∀ q, Idle q → f q = false)
    {t : List (Exchange Answer)} (h : ∀ x ∈ t, Idle x.question) :
    (t.map (·.question)).filter f = [] := by
  refine List.filter_eq_nil_iff.mpr fun q hq => ?_
  obtain ⟨x, hx, rfl⟩ := List.mem_map.mp hq
  simp [hf _ (h x hx)]

theorem idle_cases {q : Question} (h : Idle q) : q.isCall = false ∧ q.isWrite = false := by
  cases q <;> first | exact ⟨rfl, rfl⟩ | exact absurd h id

/-! ## Effects -/

variable {s : Settings} {c : Cluster} {t : List (Exchange Answer)} {event : Metadata}
  {key : ObjectKey} {name : String} {p : Provision} {a b : Standing} {phase : Phase}
  {d : ClusterDetail} {result : Except Error Action}

theorem well_writePhase {outcome : Except Error Cluster}
    (h : Ends (writePhase a.stored phase).run t outcome) (ha : Along (Well key name p) a t b) :
    outcome = .ok b.stored ∧ callsIn t = [] ∧ ∃ now v,
      b = ⟨withVersion (merge .status a.stored (entered a.stored phase now)) v, a.observed⟩ := by
  cases outcome with
  | error e =>
    obtain ⟨now, d, rfl, -⟩ := ends_writePhase_error h
    obtain ⟨_, rfl, ha⟩ := ha.cons_inv
    obtain ⟨_, h₁, -⟩ := ha.cons_inv
    obtain ⟨v, hv, -⟩ := h₁ rfl
    cases hv
  | ok c' =>
    obtain ⟨now, rfl⟩ := ends_writePhase h
    obtain ⟨_, rfl, ha⟩ := ha.cons_inv
    obtain ⟨_, h₁, ha⟩ := ha.cons_inv
    obtain ⟨v, hv, rfl⟩ := h₁ rfl
    obtain ⟨_, rfl, ha⟩ := ha.cons_inv
    obtain rfl := ha.nil_inv
    cases hv
    exact ⟨rfl, rfl, now, v, rfl⟩

theorem well_addFinalizer {outcome : Except Error Cluster}
    (h : Ends (runEffect s a.stored .addFinalizer).run t outcome)
    (ha : Along (Well key name p) a t b) : outcome = .ok b.stored ∧ callsIn t = [] ∧ ∃ v,
      b = ⟨withVersion (merge .main a.stored (guarded a.stored)) v, a.observed⟩ := by
  cases outcome with
  | error e =>
    obtain ⟨d, h₁, -⟩ := ends_fromStore_error.mp h
    obtain rfl := ends_query.mp h₁
    obtain ⟨_, h₁, -⟩ := ha.cons_inv
    obtain ⟨v, h₂, -⟩ := h₁ rfl
    cases h₂
  | ok c' =>
    obtain rfl := ends_query.mp (ends_fromStore.mp h)
    obtain ⟨_, h₁, ha⟩ := ha.cons_inv
    obtain ⟨v, h₂, rfl⟩ := h₁ rfl
    obtain rfl := ha.nil_inv
    cases h₂
    exact ⟨rfl, rfl, v, rfl⟩

/-- What the provider is asked before a cluster is created. -/
def teamCalls (s : Settings) (c : Cluster) : List Question :=
  if (c.spec.team? <|> s.team) = none then [.personalTeam] else []

theorem well_resolveTeam {outcome : Except Error String}
    (h : Ends (resolveTeam s c).run t outcome) (ha : Along (Well key name p) a t b) :
    (∃ team, outcome = .ok team) ∧ b = a ∧ callsIn t = teamCalls s c := by
  cases outcome with
  | error e =>
    obtain ⟨d, rfl, -⟩ := ends_resolveTeam_error h
    obtain ⟨_, ⟨⟨team, h₁⟩, -⟩, -⟩ := ha.cons_inv
    cases h₁
  | ok team =>
    unfold teamCalls
    rcases ends_resolveTeam h with ⟨hn, rfl⟩ | ⟨hn, rfl⟩
    · rw [if_neg (by simp [hn])]
      exact ⟨⟨team, rfl⟩, ha.nil_inv, rfl⟩
    · obtain ⟨_, h₁, h₂⟩ := ha.cons_inv
      rw [if_pos hn]
      exact ⟨⟨team, rfl⟩, h₂.nil_inv.trans h₁.2, rfl⟩

theorem well_createCluster {outcome : Except Error Unit}
    (h : Ends (createCluster s c).run t outcome) (ha : Along (Well key name p) a t b) :
    outcome = .ok () ∧ b = a ∧ ∃ team,
      callsIn t = teamCalls s c ++ [.createCluster (c.spec.createRequest team)] := by
  cases outcome with
  | error e =>
    obtain ⟨d, -, rfl | ⟨team, u, -, hd, rfl⟩⟩ := ends_createCluster_error h
    · obtain ⟨_, ⟨⟨team, h₁⟩, -⟩, -⟩ := ha.cons_inv
      cases h₁
    · obtain ⟨_, -, h₁⟩ := ha.append_inv
      obtain ⟨_, ⟨hd', -⟩, -⟩ := h₁.cons_inv
      cases hd.symm.trans hd'
  | ok =>
    obtain ⟨team, u, r, hu, -, rfl⟩ := ends_createCluster h
    obtain ⟨_, h₁, h₂⟩ := ha.append_inv
    obtain ⟨-, rfl, hc⟩ := well_resolveTeam hu h₁
    obtain ⟨_, ⟨-, rfl⟩, h₃⟩ := h₂.cons_inv
    rw [callsIn_append, hc]
    exact ⟨rfl, h₃.nil_inv, team, rfl⟩

/-- How a cluster is looked up. -/
def lookupOf (c : Cluster) : Question :=
  match c.clusterId with
  | some id => .clusterDetail id
  | none => .clusterNamed c.spec.name

theorem well_lookUp {outcome : Except Error ClusterDetail} (hn : a.stored.spec.name = name)
    (hid : ∀ id, a.stored.clusterId = some id → id = p.id)
    (h : Ends (lookUp a.stored).run t outcome) (ha : Along (Well key name p) a t b) :
    ∃ d, outcome = .ok d ∧ callsIn t = [lookupOf a.stored] ∧ p.Shows (a.observed + 1) d ∧
      b = ⟨a.stored, a.observed + 1⟩ := by
  unfold lookupOf
  have seen : ∀ {q : Question} {r : Answer q} {r' : Except Provider.Error ClusterDetail},
      q.isCall → t = [⟨q, r⟩] → a.Observes p r' b → outcome = r'.mapError .provider →
      ∃ d, outcome = .ok d ∧ callsIn t = [q] ∧ p.Shows (a.observed + 1) d ∧
        b = ⟨a.stored, a.observed + 1⟩ := by
    rintro q r r' hq rfl ⟨d, rfl, hd, rfl⟩ rfl
    exact ⟨d, rfl, by simp [callsIn, hq], hd, rfl⟩
  have byId : ∀ {id r}, a.stored.clusterId = some id → t = [⟨.clusterDetail id, r⟩] →
      a.Observes p r b := by
    rintro id r hc rfl
    obtain ⟨_, h₁, h₂⟩ := ha.cons_inv
    obtain rfl := h₂.nil_inv
    exact h₁ (hid id hc)
  have byName : ∀ {r}, t = [⟨.clusterNamed a.stored.spec.name, r⟩] → a.Observes p r b := by
    rintro r rfl
    obtain ⟨_, h₁, h₂⟩ := ha.cons_inv
    obtain rfl := h₂.nil_inv
    exact h₁ hn
  cases outcome with
  | error e =>
    obtain ⟨d, rfl, ⟨id, hc, ht⟩ | ⟨hc, ht⟩⟩ := ends_lookUp_error h
    · rw [hc]
      exact seen rfl ht (byId hc ht) rfl
    · rw [hc]
      exact seen rfl ht (byName ht) rfl
  | ok d =>
    rcases ends_lookUp h with ⟨id, hc, ht⟩ | ⟨hc, ht⟩
    · rw [hc]
      exact seen rfl ht (byId hc ht) rfl
    · rw [hc]
      exact seen rfl ht (byName ht) rfl

theorem well_notes (h : Along (Well key name p) a t b)
    (ht : ∀ x ∈ t, ∃ n, x.question = .note n) : b = a ∧ callsIn t = [] := by
  induction h with
  | nil => exact ⟨rfl, rfl⟩
  | @cons a b c x t hx _ ih =>
    obtain ⟨n, hn⟩ := ht x List.mem_cons_self
    obtain ⟨q, r⟩ := x
    subst hn
    obtain rfl := hx
    exact ih fun y hy => ht y (List.mem_cons_of_mem _ hy)

theorem well_takeOver {outcome : Except Error Cluster}
    (h : Ends (takeOver a.stored d).run t outcome) (ha : Along (Well key name p) a t b) :
    outcome = .ok b.stored ∧ callsIn t = [.connectionRole d.id] ∧ ∃ role now v,
      b = ⟨withVersion (merge .status a.stored (observed a.stored d role now)) v, a.observed⟩ := by
  cases outcome with
  | error e =>
    obtain ⟨role, now, f, rfl, -⟩ := ends_takeOver_error h
    obtain ⟨_, rfl, ha⟩ := ha.cons_inv
    obtain ⟨_, rfl, ha⟩ := ha.cons_inv
    obtain ⟨_, h₁, -⟩ := ha.cons_inv
    obtain ⟨v, hv, -⟩ := h₁ rfl
    cases hv
  | ok c' =>
    obtain ⟨role, now, t, rfl, ht⟩ := ends_takeOver h
    obtain ⟨_, rfl, ha⟩ := ha.cons_inv
    obtain ⟨_, rfl, ha⟩ := ha.cons_inv
    obtain ⟨_, h₁, ha⟩ := ha.cons_inv
    obtain ⟨v, hv, rfl⟩ := h₁ rfl
    obtain ⟨rfl, hc⟩ := well_notes ha ht
    cases hv
    refine ⟨rfl, ?_, role, now, v, rfl⟩
    exact congrArg (Question.connectionRole d.id :: ·) hc

/-! ## Whole passes -/

theorem well_idle (ha : Along (Well key name p) a t b) (h : ∀ x ∈ t, Idle x.question) : b = a := by
  induction ha with
  | nil => rfl
  | @cons a b c x t hx _ ih =>
    have hi := h x List.mem_cons_self
    have hb : b = a := by
      obtain ⟨q, r⟩ := x
      cases q <;> first | exact hx | exact absurd hi id
    exact (ih fun y hy => h y (List.mem_cons_of_mem _ hy)).trans hb

theorem load_first_of_ends (hn : event.ns.isSome) (h : Ends (reconcile s event) t result) :
    ∃ r u, t = ⟨.load event.key, r⟩ :: u := by
  obtain ⟨ns, hn⟩ := Option.isSome_iff_exists.mp hn
  obtain ⟨r, u, login, v, rfl, hu, -⟩ := reconcile_parts hn h
  obtain ⟨loaded, u, rfl, -⟩ := ends_ask_bind.mp hu
  exact ⟨loaded, _, List.cons_append⟩

/-- A pass loads what is stored, runs what is planned for it, and is idle then. -/
theorem well_pass (hp : Phase.ofText? a.stored.phaseText = some phase) (hn : event.ns.isSome)
    (h : Ends (reconcile s event) t result) (ha : Along (Well event.key name p) a t b) :
    ∃ u outcome, Ends (runEffects s a.stored (Plan.make (observe a.stored phase)).effects).run u
        outcome ∧ Along (Well event.key name p) a u b ∧
      callsIn t = callsIn u ∧ writesIn t = writesIn u ∧ result = returned
        (outcome.map fun _ => actionOf s (Plan.make (observe a.stored phase)).requeue) := by
  obtain ⟨r, t, rfl⟩ := load_first_of_ends hn h
  obtain ⟨_, h₁, h₂⟩ := ha.cons_inv
  obtain ⟨rfl, rfl⟩ := h₁ rfl
  obtain ⟨u, v, outcome, rfl, hu, hr, hi⟩ := ends_planned hp h
  obtain ⟨_, h₂, h₃⟩ := h₂.append_inv
  obtain rfl := well_idle h₃ hi
  have hc : callsIn v = [] := filter_idle (fun q hq => (idle_cases hq).1) hi
  have hw : writesIn v = [] := filter_idle (fun q hq => (idle_cases hq).2) hi
  refine ⟨u, outcome, hu, h₂, ?_, ?_, hr⟩
  · show callsIn (u ++ v) = callsIn u
    rw [callsIn_append, hc, List.append_nil]
  · show writesIn (u ++ v) = writesIn u
    rw [writesIn_append, hw, List.append_nil]

end ClusterOperator.Reconcile
