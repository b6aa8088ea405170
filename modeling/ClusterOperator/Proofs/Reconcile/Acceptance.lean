import ClusterOperator.Proofs.Reconcile.Connection
import ClusterOperator.Proofs.Reconcile.Course

/-!
# The provider's word on a create request

A pass makes an object `creating` only after its one create request was
answered, with any status but 400. A pass whose request was not taken writes
nothing, and a pass over a pending object succeeds only with a request taken.
-/

namespace ClusterOperator.Reconcile.Connected

open Resource (Cluster ObjectKey)
open Kubernetes (Part)
open Provider (Client CreateRequest)
open Program
open Store (withVersion merge)

def posted (r : CreateRequest) (reply : Except Provider.Error Http.Response) : Exchange Answer :=
  ⟨.client (.send (Client.createRequest r)), reply⟩

def reply? : Exchange Answer → Option (Except Provider.Error Http.Response)
  | ⟨.client (.send _), reply⟩ => some reply
  | _ => none

theorem posted_reply {r r' : CreateRequest} {reply reply' : Except Provider.Error Http.Response}
    (h : posted r reply = posted r' reply') : reply = reply' :=
  Option.some.inj (congrArg reply? h)

/-- Whether a reply lets the phase advance: there is a response, and not with
status 400. -/
def Taken : Except Provider.Error Http.Response → Prop
  | .ok response => response.status ≠ 400
  | .error _ => False

/-- A request without a response failed on the way. -/
def Carried : Exchange Answer → Prop
  | ⟨.client (.send _), .error e⟩ => ∃ m, e = .transport m
  | _ => True

/-! ## The call -/

theorem tookCreate_check {state : Provider.LoginState} {e : Provider.Error}
    (h : state.check = .error e) : tookCreate (.error e) = false := by
  cases state <;> cases h <;> rfl

theorem tookCreate_created {response : Http.Response} :
    tookCreate (Client.created response) ↔ response.status ≠ 400 := by
  have h₄ : response.status = 400 ↔ response.status.toNat = 400 := UInt16.toNat_inj.symm
  unfold Client.created
  rw [ne_eq, h₄]
  split
  next h => simp [h, tookCreate]
  next h => simp [h, tookCreate]
  next h _ => exact ⟨fun _ => h, fun _ => rfl⟩

theorem ends_create {r : CreateRequest} {part : List (Exchange Answer)}
    {a : Except Provider.Error Unit} (h : Ends (answer (.createCluster r)) part a)
    (hc : ∀ x ∈ part, Carried x) (ha : tookCreate a) :
    ∃ state reply, part = [⟨.client .check, state⟩, posted r reply] ∧ Taken reply := by
  obtain ⟨heard, h₁, rfl⟩ := ends_call.mp h
  rcases Client.ends_send_read h₁ with ⟨state, e, hs, rfl, rfl⟩ | ⟨state, reply, hs, rfl, rfl⟩
  · rw [tookCreate_check hs] at ha
    cases ha
  refine ⟨state, reply, rfl, ?_⟩
  cases reply with
  | error e =>
    obtain ⟨m, rfl⟩ := hc _ (List.mem_cons_of_mem _ List.mem_cons_self)
    cases ha
  | ok response => exact tookCreate_created.mp ha

def Quiet : Question → Prop
  | .plain _ => True
  | .client q => Client.Reads q

theorem only_call {α : Type} {p : Client.Call α} (h : Only Client.Reads p.run) :
    Only Quiet (call p) := by
  intro told q hq
  obtain ⟨heard, r, hr, rfl, -⟩ := asks_call hq
  exact h _ _ hr

theorem only_answer {q : Reconcile.Question} (h : ∀ r, q ≠ .createCluster r) :
    Only Quiet (answer q) := by
  have only_query : ∀ {r : Question}, Quiet r → Only Quiet (query r : Program Answer (Answer r)) := by
    intro r hr told r' ha
    rw [(asks_query.mp ha).2]
    exact hr
  cases q with
  | createCluster r => exact absurd rfl (h r)
  | clusterDetail id => exact only_call (Client.only_fetch (by simp [Client.Request.get]))
  | clusterNamed name => exact only_call (Client.only_byName name)
  | deleteCluster id => exact only_call (Client.only_delete id)
  | connectionRole id => exact only_call (Client.only_fetch (by simp [Client.Request.get]))
  | personalTeam => exact only_call Client.only_personalTeam
  | loginState => exact only_query trivial
  | load key => exact only_query trivial
  | replaceMetadata c => exact only_query trivial
  | replaceStatus c => exact only_query trivial
  | now => exact only_query trivial
  | note n => exact only_query trivial

theorem not_quiet_post {r : CreateRequest} : ¬ Quiet (.client (.send (Client.createRequest r))) :=
  fun h => h rfl

theorem create_of_asks {q : Reconcile.Question} {told : List (Exchange Answer)} {r : CreateRequest}
    (h : Asks (answer q) told (.client (.send (Client.createRequest r)))) :
    ∃ r', q = .createCluster r' := by
  by_contra hn
  exact not_quiet_post (only_answer (fun r' he => hn ⟨r', he⟩) _ _ h)

theorem create_of_mem {q : Reconcile.Question} {part : List (Exchange Answer)}
    {a : Reconcile.Answer q} (h : Ends (answer q) part a) {r : CreateRequest}
    {reply : Except Provider.Error Http.Response} (hm : posted r reply ∈ part) :
    ∃ r', q = .createCluster r' := by
  obtain ⟨t, u, rfl⟩ := List.append_of_mem hm
  exact create_of_asks h.hears.asks

/-! ## The pass -/

theorem not_create_of_enters {c : Cluster} {phase : Phase} {t : List (Exchange Reconcile.Answer)}
    {q : Reconcile.Question} (h : Enters c phase t q) {r : CreateRequest}
    {a : Except Provider.Error Unit} : ⟨.createCluster r, a⟩ ∉ t := by
  cases h <;> simp

theorem not_create_of_team {s : Settings} {c : Cluster} {team : String}
    {t : List (Exchange Reconcile.Answer)} (h : Ends (resolveTeam s c).run t (.ok team))
    {r : CreateRequest} {a : Except Provider.Error Unit} : ⟨.createCluster r, a⟩ ∉ t := by
  rcases ends_resolveTeam h with ⟨-, rfl⟩ | ⟨-, rfl⟩ <;> simp

/-- A pass that goes on to write had its create request taken. -/
theorem tookCreate_of_inquires {s : Settings} {c sent : Cluster} {part : Part}
    {t : List (Exchange Reconcile.Answer)} (h : Inquires s c t (writing part sent))
    {r : CreateRequest} {a : Except Provider.Error Unit} (hm : ⟨.createCluster r, a⟩ ∈ t) :
    tookCreate a := by
  generalize hq : writing part sent = q at h
  cases h with
  | mark _ _ _ he => exact absurd hm (not_create_of_enters he)
  | clear _ _ _ => cases part <;> cases hq
  | release _ hm' hc =>
    rcases List.mem_append.mp hm with hm | hm
    · cases hm' <;> simp at hm
    · generalize c.clusterId = id at hc
      cases hc <;> simp at hm
  | guard _ _ => cases hm
  | guardedSetup _ _ he =>
    rcases List.mem_cons.mp hm with hm | hm
    · cases hm
    · exact absurd hm (not_create_of_enters he)
  | setup _ _ _ he => exact absurd hm (not_create_of_enters he)
  | team _ _ _ => cases hm
  | create _ _ _ => cases part <;> cases hq
  | created _ _ ht ha he =>
    rcases List.mem_append.mp hm with hm | hm
    · exact absurd hm (not_create_of_team ht)
    · rcases List.mem_cons.mp hm with hm | hm
      · cases hm
        exact ha
      · exact absurd hm (not_create_of_enters he)
  | byId _ _ _ => cases hm
  | byName _ _ _ => cases hm
  | observed _ _ hl _ ht =>
    rcases List.mem_append.mp hm with hm | hm
    · rcases ends_lookUp hl with ⟨_, -, rfl⟩ | ⟨-, rfl⟩ <;> simp at hm
    · cases ht <;> simp at hm

theorem dealing_before_create {s : Settings} {c : Cluster} {r : CreateRequest}
    {t : List (Exchange Reconcile.Answer)} (h : Inquires s c t (.createCluster r)) :
    ∀ x ∈ t, Reconcile.dealing x = none := by
  obtain ⟨team, ht, -⟩ := inquires_createCluster h
  intro x hx
  rcases ends_resolveTeam ht with ⟨-, rfl⟩ | ⟨-, rfl⟩
  · cases hx
  · obtain rfl := List.mem_singleton.mp hx
    rfl

theorem load_first {s : Settings} {event : Resource.Metadata} {key : ObjectKey}
    {heard : List (Exchange Reconcile.Answer)}
    (h : Asks (Reconcile.reconcile s event) heard (.load key)) : heard = [] := by
  rcases inquires_of_asks h with ⟨_, h₁, -⟩ | (h₁ | ⟨_, h₁⟩) | ⟨_, _, _, -, h₁⟩
  · exact h₁
  · cases h₁
  · cases h₁
  · exact absurd h₁ not_inquires_load

theorem ends_creation {s : Settings} {c : Cluster} {t : List (Exchange Reconcile.Answer)}
    {a : Except Error Cluster}
    (h : Ends (runEffects s c [.createCluster, .setPhase .creating]).run t a) :
    (∃ d, a = .error (.provider d)) ∨ ∃ r b, ⟨.createCluster r, b⟩ ∈ t ∧ tookCreate b := by
  rcases ends_try_bind.mp h with ⟨e, h₁, rfl⟩ | ⟨c', t, u, h₁, -, rfl⟩
  · obtain ⟨d, rfl, -⟩ := ends_createCluster_error (ends_pass_return_error h₁)
    exact .inl ⟨d, rfl⟩
  · obtain ⟨_, h₂, rfl⟩ := ends_pass_return h₁
    obtain ⟨team, t, b, -, hb, rfl⟩ := ends_createCluster h₂
    exact .inr ⟨c'.spec.createRequest team, b, by simp, hb⟩

theorem tookCreate_of_ends {s : Settings} {event : Resource.Metadata}
    {heard : List (Exchange Reconcile.Answer)} {action : Action}
    (h : Ends (Reconcile.reconcile s event) heard (.ok action)) {key : ObjectKey} {c : Cluster}
    (hl : ⟨.load key, .ok c⟩ ∈ heard) (hp : Phase.ofText? c.phaseText = some .pending)
    (hd : c.metadata.isDeleting = false) :
    ∃ r a, ⟨.createCluster r, a⟩ ∈ heard ∧ tookCreate a := by
  obtain ⟨v, w, rfl⟩ := List.append_of_mem hl
  obtain rfl := load_first h.hears.asks
  unfold Reconcile.reconcile at h
  split at h
  · cases (ends_done.mp h).1
  obtain ⟨res, t, u, hb, hr, he⟩ := ends_bind.mp h
  obtain ⟨a, t, rfl, h₁⟩ := ends_ask_bind.mp hb
  cases he
  have hplan : (Plan.make (observe c .pending)).effects = [.createCluster, .setPhase .creating] := by
    simp only [Plan.make, observe, hd]
    rfl
  simp only [hp, hplan] at h₁
  rcases ends_try_bind.mp h₁ with ⟨e, h₂, rfl⟩ | ⟨_, t, u', h₂, h₃, rfl⟩
  · rcases ends_creation h₂ with ⟨d, hd⟩ | ⟨r, b, hm, hb⟩
    · cases hd
      obtain ⟨_, _, u, -, hr, -⟩ := ends_bind.mp hr
      obtain ⟨_, _, u, -, hr, -⟩ := ends_bind.mp hr
      obtain ⟨_, _, u, -, hr, -⟩ := ends_bind.mp hr
      cases (ends_done.mp hr).2
    · exact ⟨r, b, by simp [hm], hb⟩
  · rcases ends_creation h₂ with ⟨d, hd⟩ | ⟨r, b, hm, hb⟩
    · cases hd
    · exact ⟨r, b, by simp [hm], hb⟩

theorem posted_of_spells {heard : List (Exchange Reconcile.Answer)} {told : List (Exchange Answer)}
    (hs : Spells answer heard told) (hc : ∀ x ∈ told, Carried x) {r : CreateRequest}
    {a : Except Provider.Error Unit} (hm : ⟨.createCluster r, a⟩ ∈ heard) (ha : tookCreate a) :
    ∃ response, posted r (.ok response) ∈ told ∧ response.status ≠ 400 := by
  obtain ⟨part, hp, hi⟩ := hs.mem hm
  obtain ⟨state, reply, rfl, ht⟩ := ends_create hp (fun x hx => hc x (hi.subset hx)) ha
  cases reply with
  | error e => exact ht.elim
  | ok response => exact ⟨response, hi.subset (by simp), ht⟩

/-- The create requests of a transcript are one, and a response to it came. -/
def PostedOnce (told : List (Exchange Answer)) (r : CreateRequest) (response : Http.Response) : Prop :=
  posted r (.ok response) ∈ told ∧
    ∀ r' reply, posted r' reply ∈ told → posted r' reply = posted r (.ok response)

theorem not_posted_of_spells {heard : List (Exchange Reconcile.Answer)} {told : List (Exchange Answer)}
    (hs : Spells answer heard told) (hn : ∀ r a, ⟨.createCluster r, a⟩ ∉ heard) {r : CreateRequest}
    {reply : Except Provider.Error Http.Response} : posted r reply ∉ told := by
  intro hm
  obtain ⟨⟨q, a⟩, hx, part, hp, hy, -⟩ := hs.mem_of hm
  obtain ⟨r', rfl⟩ := create_of_mem hp hy
  exact hn r' a hx

theorem postedOnce_of_spells {t u : List (Exchange Reconcile.Answer)} {told : List (Exchange Answer)}
    {r : CreateRequest} {a : Except Provider.Error Unit}
    (hs : Spells answer (t ++ ⟨.createCluster r, a⟩ :: u) told) (hc : ∀ x ∈ told, Carried x)
    (ha : tookCreate a) (ht : ∀ r a, ⟨.createCluster r, a⟩ ∉ t)
    (hu : ∀ r a, ⟨.createCluster r, a⟩ ∉ u) :
    ∃ response, PostedOnce told r response ∧ response.status ≠ 400 := by
  obtain ⟨before, _, hb, h₁, rfl⟩ := hs.of_append
  cases h₁ with
  | cons hp h₂ =>
  obtain ⟨state, reply, rfl, htaken⟩ := ends_create hp (fun x hx => hc x (by simp_all)) ha
  cases reply with
  | error e => exact htaken.elim
  | ok response =>
    refine ⟨response, ⟨by simp, fun r' reply hm => ?_⟩, htaken⟩
    rcases List.mem_append.mp hm with hm | hm
    · exact absurd hm (not_posted_of_spells hb ht)
    rcases List.mem_cons.mp hm with hm | hm
    · cases hm
    rcases List.mem_cons.mp hm with hm | hm
    · exact hm
    · exact absurd hm (not_posted_of_spells h₂ hu)

/-! ## Whole runs -/

section
variable {τ : Type} {key : ObjectKey} {edits : Cluster → Cluster → Prop}
  {tells : τ → Exchange Answer → τ → Prop} {c : Cluster} {a : τ}
  {w w' : Scene Answer (Except Error Action) (Store.Record × τ)}

theorem carried_of_runs (hT : ∀ {a x a'}, tells a x a' → Carried x)
    (h : (Store.surroundings (PassOver key) dealing edits tells).Runs (.start (.start c, a)) w) :
    ∀ e ∈ w.errands, ∀ x ∈ e.told, Carried x := by
  refine Environment.Runs.told ?_ h
  intro s x s' hx
  exact hT hx.2

/-- The pass that makes an object `creating` posted a create request for it, and
no other, and had it taken. -/
theorem posted_of_creating (hT : ∀ {a x a'}, tells a x a' → Carried x)
    (h : (Store.surroundings (PassOver key) dealing edits tells).Runs (.start (.start c, a)) w)
    {i : Nat} {x : Exchange Answer}
    (ht : (Store.surroundings (PassOver key) dealing edits tells).Turn w i x w')
    (hb : BecomesCreating w.state.1 w'.state.1) :
    ∃ e, w.errands[i]? = some e ∧ ∃ loaded ∈ w.state.1.versions, ∃ team response,
      PostedOnce e.told (loaded.spec.createRequest team) response ∧ response.status ≠ 400 := by
  have hE : Steered (Store.surroundings (PassOver key) dealing edits tells) dealing Prod.fst edits :=
    steered_surroundings
  have hr := hE.sound (Store.Record.sound_start c) h
  obtain ⟨stored, kept, hc, hn, ho, hk⟩ := hb
  obtain ⟨part, sent, _, hx, b, v, hb, hv, -, rfl⟩ := hE.accepts_of_new ht hn
  obtain rfl : b = stored := Option.some.inj (hb.symm.trans hc)
  obtain ⟨e, he, hi, ha⟩ := ht.mem
  obtain ⟨s, k, loaded, t, hs, hq, hf⟩ := fits_of_asks h he ha hx
  cases part with
  | main => exact absurd hk ho
  | status =>
    -- an observation leaves an object `creating` that was so, and this one was not
    rcases creation_of_inquires hq hk with ⟨hp, hm⟩ | ⟨team, u, b', u', rfl, hteam, ha', hen⟩
    · have hv' : Store.versionOf sent = Store.versionOf loaded :=
        congrArg Resource.Metadata.resourceVersion hm
      obtain rfl := hr.eq_of_version (hr.current_mem hc) hf.1 (hv.symm.trans hv')
      exact absurd hp ho
    · have before : ∀ r a, ⟨.createCluster r, a⟩ ∉ ⟨.load k, .ok loaded⟩ :: u := by
        intro r a hm
        rcases List.mem_cons.mp hm with hm | hm
        · cases hm
        · exact not_create_of_team hteam hm
      obtain ⟨response, hpost, hne⟩ := postedOnce_of_spells hs (carried_of_runs hT h e he) ha' before
        fun r a => not_create_of_enters hen
      exact ⟨e, hi, loaded, hf.1, team, response, hpost, hne⟩

end

section
variable {key : ObjectKey}

theorem taken_before_write {p : Program Answer (Except Error Action)} (hp : PassOver key p)
    {t u : List (Exchange Answer)} {y : Exchange Answer} (ht : p.Hears (t ++ y :: u))
    (hc : ∀ x ∈ t, Carried x) {part : Part} {sent : Cluster} {a : Except Store.Error Cluster}
    (hy : dealing y = some (.replace part sent a)) {r : CreateRequest}
    {reply : Except Provider.Error Http.Response} (hm : posted r reply ∈ t) : Taken reply := by
  obtain ⟨s, key, c, heard, hs, hq⟩ := hp.inquires ht.asks hy
  obtain ⟨⟨q, b⟩, hx, part', hpart, hz, hi⟩ := hs.mem_of hm
  obtain ⟨r', rfl⟩ := create_of_mem hpart hz
  have hb := tookCreate_of_inquires hq (show ⟨.createCluster r', b⟩ ∈ heard by simpa using hx)
  obtain ⟨state, reply', rfl, hr⟩ := ends_create hpart (fun x hx => hc x (hi.subset hx)) hb
  rcases List.mem_cons.mp hz with h | h
  · cases h
  · exact posted_reply (List.mem_singleton.mp h) ▸ hr

theorem no_write_before_post {p : Program Answer (Except Error Action)} (hp : PassOver key p)
    {t : List (Exchange Answer)} {r : CreateRequest}
    (ha : p.Asks t (.client (.send (Client.createRequest r)))) {y : Exchange Answer} (hy : y ∈ t)
    {part : Part} {sent : Cluster} {a : Except Store.Error Cluster} :
    dealing y ≠ some (.replace part sent a) := by
  intro hd
  obtain ⟨s, event, -, rfl⟩ := hp
  obtain ⟨heard, v, u, q, hq, hs, hu, rfl⟩ := asks_interpret.mp ha
  obtain ⟨r', rfl⟩ := create_of_asks hu
  rcases List.mem_append.mp hy with hy | hy
  · obtain ⟨x, hx, part', hpart, hz, -⟩ := hs.mem_of hy
    have hd := dealing_of_part hpart hz hd
    rcases inquires_of_asks hq with ⟨_, -, h⟩ | (h | ⟨_, h⟩) | ⟨_, c, t, rfl, hi⟩
    · cases h
    · cases h
    · cases h
    · rcases List.mem_cons.mp hx with rfl | hx
      · cases hd
      · rw [dealing_before_create hi x hx] at hd
        cases hd
  · obtain ⟨told, _, -, -, rfl⟩ := asks_call hu
    obtain ⟨x, -, rfl⟩ := List.mem_map.mp hy
    cases hd

/-- A pass whose create request was not taken writes nothing, before or after. -/
theorem no_write_of_refused {p : Program Answer (Except Error Action)} (hp : PassOver key p)
    {told : List (Exchange Answer)} (ht : p.Hears told) (hc : ∀ x ∈ told, Carried x)
    {r : CreateRequest} {reply : Except Provider.Error Http.Response} (hm : posted r reply ∈ told)
    (hr : ¬ Taken reply) {y : Exchange Answer} (hy : y ∈ told) {part : Part} {sent : Cluster}
    {a : Except Store.Error Cluster} : dealing y ≠ some (.replace part sent a) := by
  intro hd
  -- the request comes before the write or after it
  obtain ⟨t, u, rfl⟩ := List.append_of_mem hy
  rcases List.mem_append.mp hm with hm | hm
  · exact hr (taken_before_write hp ht (fun x hx => hc x (by simp [hx])) hd hm)
  · rcases List.mem_cons.mp hm with rfl | hm
    · cases hd
    · obtain ⟨v, v', rfl⟩ := List.append_of_mem hm
      rw [← List.cons_append, ← List.append_assoc] at ht
      exact no_write_before_post hp ht.asks (by simp) hd

theorem posted_of_success {p : Program Answer (Except Error Action)} (hp : PassOver key p)
    {told : List (Exchange Answer)} {action : Action} (ht : p.Ends told (.ok action))
    (hc : ∀ x ∈ told, Carried x) {k : ObjectKey} {loaded : Cluster}
    (hm : ⟨.plain (.load k), .ok loaded⟩ ∈ told)
    (hpend : Phase.ofText? loaded.phaseText = some .pending)
    (hd : loaded.metadata.isDeleting = false) :
    ∃ r response, posted r (.ok response) ∈ told ∧ response.status ≠ 400 := by
  obtain ⟨s, event, -, rfl⟩ := hp
  obtain ⟨heard, hh, hs⟩ := ends_interpret.mp ht
  obtain ⟨⟨q, b⟩, hx, part, hpart, hy, -⟩ := hs.mem_of hm
  have hq : q = .load k := by
    obtain ⟨t, u, rfl⟩ := List.append_of_mem hy
    exact (asks_answer_plain hpart.hears.asks).2.symm
  subst hq
  obtain rfl := ends_query.mp hpart
  obtain rfl : .ok loaded = b := by simpa using hy
  obtain ⟨r, a, hr, ha⟩ := tookCreate_of_ends hh hx hpend hd
  obtain ⟨response, h₁, h₂⟩ := posted_of_spells hs hc hr ha
  exact ⟨r, response, h₁, h₂⟩

end

/-- Passes with clients over one object, with other writers that leave its
status alone, and whatever the provider responds. -/
def passes (key : ObjectKey) (edits : Cluster → Cluster → Prop) :
    Environment Answer (Except Error Action) (Store.Record × Unit) :=
  Store.surroundings (PassOver key) dealing edits fun _ x _ => Carried x

/-- An object becomes `creating` only in a pass whose one create request got a
response, with any status but 400. After another reply the pass writes nothing.
A pass over an object that is found pending succeeds only with such a response. -/
theorem creating_on_response {key : ObjectKey} {edits : Cluster → Cluster → Prop} {c : Cluster}
    {w : Scene Answer (Except Error Action) (Store.Record × Unit)}
    (h : (passes key edits).Runs (.start (.start c, ())) w) :
    (∀ i x w', (passes key edits).Turn w i x w' → BecomesCreating w.state.1 w'.state.1 →
      ∃ e, w.errands[i]? = some e ∧ ∃ loaded ∈ w.state.1.versions, ∃ team response,
        PostedOnce e.told (loaded.spec.createRequest team) response ∧ response.status ≠ 400) ∧
    (∀ e ∈ w.errands, ∀ r reply, posted r reply ∈ e.told → ¬ Taken reply →
      ∀ y ∈ e.told, ∀ part sent a, dealing y ≠ some (.replace part sent a)) ∧
    ∀ e ∈ w.errands, ∀ action, e.program.Ends e.told (.ok action) → ∀ key loaded,
      ⟨.plain (.load key), .ok loaded⟩ ∈ e.told →
      Phase.ofText? loaded.phaseText = some .pending → loaded.metadata.isDeleting = false →
      ∃ r response, posted r (.ok response) ∈ e.told ∧ response.status ≠ 400 := by
  have hc := carried_of_runs id h
  refine ⟨?_, ?_, ?_⟩
  · intro i x w' ht hb
    exact posted_of_creating id h ht hb
  · intro e he r reply hm hr y hy part sent a
    obtain ⟨hp, ht⟩ := h.genuine e he
    exact no_write_of_refused hp ht (hc e he) hm hr hy
  · intro e he action ht key loaded hm hp hd
    exact posted_of_success (h.genuine e he).1 ht (hc e he) hm hp hd

/-! ## A provider that is out of order -/

namespace Sample

open Reconcile.Sample

def broken : Http.Response := ⟨500, .ok ""⟩

def request : CreateRequest := pending.spec.createRequest "t1"

def connectedPass : Program Answer (Except Error Action) := reconcile .start cluster.metadata

def toldBroken : List (Exchange Answer) :=
  [⟨.plain (.load key), .ok pending⟩, ⟨.client .check, .active⟩, posted request (.ok broken),
    ⟨.plain .now, now⟩]

def atBroken : Scene Answer (Except Error Action) (Store.Record × Unit) :=
  ⟨(.start pending, ()), [⟨connectedPass, toldBroken⟩]⟩

def afterBroken : Scene Answer (Except Error Action) (Store.Record × Unit) :=
  ⟨(⟨some creating, [creating, pending]⟩, ()), [⟨connectedPass,
    toldBroken ++ [⟨.plain (.replaceStatus (entered pending .creating now)), .ok creating⟩]⟩]⟩

theorem broken_runs : (passes key fun _ _ => True).Runs (.start (.start pending, ())) atBroken := by
  have h₀ : (passes key fun _ _ => True).Runs (.start (.start pending, ()))
      ⟨(.start pending, ()), [⟨connectedPass, []⟩]⟩ :=
    Environment.Runs.starts .refl ⟨.start, cluster.metadata, rfl, rfl⟩
  have h₁ := h₀.turns 0 ⟨.plain (.load key), .ok pending⟩ (.start pending, ()) rfl .now
    (Store.deals_answers rfl (.read List.mem_cons_self) trivial)
  have h₂ := h₁.turns 0 ⟨.client .check, .active⟩ (.start pending, ()) rfl (.later .now)
    (Store.apart_answers rfl trivial)
  have h₃ := h₂.turns 0 (posted request (.ok broken)) (.start pending, ()) rfl (.later (.later .now))
    (Store.apart_answers rfl trivial)
  exact h₃.turns 0 ⟨.plain .now, now⟩ (.start pending, ()) rfl (.later (.later (.later .now)))
    (Store.apart_answers rfl trivial)

theorem broken_turn : (passes key fun _ _ => True).Turn atBroken 0
    ⟨.plain (.replaceStatus (entered pending .creating now)), .ok creating⟩ afterBroken :=
  ⟨_, rfl, .later (.later (.later (.later .now))),
    Store.deals_answers rfl (.accepted ⟨pending, "3", rfl, rfl, by decide, rfl⟩) trivial, rfl⟩

theorem broken_becomes : BecomesCreating atBroken.state.1 afterBroken.state.1 :=
  ⟨pending, creating, rfl, rfl, by decide, rfl⟩

end Sample

/-- A response with status 500 lets an object become `creating`. -/
theorem creating_on_response_broken : ∃ w e r response,
    (passes Reconcile.Sample.key fun _ _ => True).Runs
      (.start (.start Reconcile.Sample.pending, ())) w ∧
      w.errands[0]? = some e ∧ PostedOnce e.told r response ∧ response.status ≠ 400 := by
  obtain ⟨e, he, _, -, _, response, hm, hr⟩ := (creating_on_response Sample.broken_runs).1 0 _ _
    Sample.broken_turn Sample.broken_becomes
  exact ⟨_, e, _, response, Sample.broken_runs, he, hm, hr⟩

/-- So the provider need not have taken the request. -/
theorem creating_without_success : ¬ ∀ {key : ObjectKey} {edits : Cluster → Cluster → Prop}
    {c : Cluster} {w w' : Scene Answer (Except Error Action) (Store.Record × Unit)} {i : Nat}
    {x : Exchange Answer},
    (passes key edits).Runs (.start (.start c, ())) w → (passes key edits).Turn w i x w' →
    BecomesCreating w.state.1 w'.state.1 →
    ∃ e, w.errands[i]? = some e ∧ ∃ r response, posted r (.ok response) ∈ e.told ∧
      (response.isSuccess ∨ response.status = 409) := by
  intro h
  obtain ⟨e, he, r, response, hm, hr⟩ :=
    h Sample.broken_runs Sample.broken_turn Sample.broken_becomes
  cases he
  have told : .ok response ∈ Sample.toldBroken.filterMap reply? :=
    List.mem_filterMap.mpr ⟨_, hm, rfl⟩
  obtain rfl : Sample.broken = response := by simpa [Sample.toldBroken, reply?, posted] using told
  revert hr
  decide

end ClusterOperator.Reconcile.Connected
