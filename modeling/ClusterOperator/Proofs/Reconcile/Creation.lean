import ClusterOperator.Proofs.Provider.Keys
import ClusterOperator.Proofs.Reconcile.Attribution
import ClusterOperator.Proofs.Reconcile.Guard

/-!
# One cluster for one object

A create request and the write that ends creating are apart, so the request may
be sent any number of times. Each time it is the same to the byte, and carries
the same key, by which a provider tells it from a new one.
-/

namespace ClusterOperator.Reconcile.Connected

open Resource (Cluster ObjectKey)
open Provider (Client utf8)
open Program

variable {told : List (Exchange Answer)} {s : Settings} {event : Resource.Metadata}

/-! ## The request -/

/-- The team that a pass which is to create a cluster found, for the object that
it loaded. -/
def Resolves (s : Settings) (told : List (Exchange Answer)) (team : String) : Prop :=
  ∃ k loaded t u, told = ⟨.plain (.load k), .ok loaded⟩ :: (t ++ u) ∧
    loaded.phaseText = Phase.pending.text ∧ loaded.metadata.isDeleting = false ∧
    Ends ((resolveTeam s loaded).run.interpret answer) t (.ok team)

theorem Resolves.of_append {t u : List (Exchange Answer)} {team : String} (h : Resolves s t team) :
    Resolves s (t ++ u) team := by
  obtain ⟨k, loaded, t, v, rfl, hp, hd, ht⟩ := h
  exact ⟨k, loaded, t, v ++ u, by simp, hp, hd, ht⟩

/-- What a pass posts is a create request, for the object that it loaded and
the team that it found. -/
theorem resolves_of_asks {r : Client.Request} (hr : r.method = .post)
    (h : Asks (reconcile s event) told (.client (.send r))) :
    ∃ k loaded t team, told = ⟨.plain (.load k), .ok loaded⟩ :: t ∧
      loaded.phaseText = Phase.pending.text ∧ loaded.metadata.isDeleting = false ∧
      Resolves s told team ∧ r = Client.createRequest (loaded.spec.createRequest team) := by
  obtain ⟨heard, v, t, q, hp, hs, ht, rfl⟩ := asks_interpret.mp h
  obtain ⟨r', rfl⟩ : ∃ r', q = .createCluster r' := by
    by_contra hn
    exact only_answer (fun r' he => hn ⟨r', he⟩) _ _ ht hr
  obtain ⟨_, q', hc, hq, -⟩ := asks_call ht
  cases hq
  rcases Client.asks_create hc with hc | hc
  · cases hc
  cases hc
  rcases inquires_of_asks hp with ⟨_, -, hq⟩ | (hq | ⟨_, hq⟩) | ⟨k, loaded, heard, rfl, hi⟩
  · cases hq
  · cases hq
  · cases hq
  obtain ⟨hd, hpend⟩ := pending_of_orders hi trivial
  obtain ⟨team, hteam, rfl⟩ := inquires_createCluster hi
  cases hs with
  | cons hl hs =>
    obtain rfl := ends_query.mp hl
    have hteam := ends_interpret.mpr ⟨heard, hteam, hs⟩
    exact ⟨k, loaded, _, team, rfl, hpend, hd, ⟨k, loaded, _, t, rfl, hpend, hd, hteam⟩, rfl⟩

/-- In each pass of a scene, as far as it has got, the team is the same. -/
def SameTeam {σ : Type} (w : Scene Answer (Except Error Action) σ) (team : String) : Prop :=
  ∀ e ∈ w.errands, ∃ s event, e.program = reconcile s event ∧
    ∀ other, Resolves s e.told other → other = team

section
variable {σ : Type} {E : Environment Answer (Except Error Action) σ}
  {w w' : Scene Answer (Except Error Action) σ} {team : String}

theorem SameTeam.before (hs : E.Step w w') (h : SameTeam w' team) : SameTeam w team := by
  intro e he
  obtain ⟨i, hi⟩ := List.getElem?_of_mem he
  obtain ⟨more, hm⟩ := hs.goes_on hi
  obtain ⟨s, event, hp, ht⟩ := h _ (List.mem_of_getElem? hm)
  exact ⟨s, event, hp, fun other hr => ht other hr.of_append⟩

theorem posted_of_poses {s₀ : σ} (h : E.Runs (.start s₀) w) (ht : SameTeam w team)
    {e : Errand Answer (Except Error Action)} (he : e ∈ w.errands) {r : Client.Request}
    (hr : r.method = .post) (hq : e.Poses (.client (.send r))) :
    ∃ k loaded t, e.told = ⟨.plain (.load k), .ok loaded⟩ :: t ∧
      loaded.phaseText = Phase.pending.text ∧ loaded.metadata.isDeleting = false ∧
      r = Client.createRequest (loaded.spec.createRequest team) := by
  obtain ⟨t, u, htold, ha⟩ := (h.genuine e he).asks hq
  obtain ⟨s, event, hp, hteam⟩ := ht e he
  rw [hp] at ha
  obtain ⟨k, loaded, t, other, rfl, hpend, hd, hres, rfl⟩ := resolves_of_asks hr ha
  obtain rfl := hteam other (htold ▸ hres.of_append)
  exact ⟨k, loaded, t ++ u, htold, hpend, hd, rfl⟩

end

/-! ## The provider -/

/-- The clusters that were made, each with the key of the request for it. -/
abbrev Made := List (Option String × String)

/-- A provider need not make what it is asked for, but makes nothing for a key
for which it has made something. -/
inductive Handles (r : Http.Request) : Made → Made → Prop
  | made {made : Made} {id : String} : r.method = .post →
    (∀ key, r.header? "idempotency-key" = some key → some key ∉ made.map Prod.fst) →
    Handles r made ((r.header? "idempotency-key", id) :: made)
  | other {made : Made} : Handles r made made

/-- What a request of a client leads to, with whatever token, and whatever the
reply is. -/
def Provides (cl : Client) (made : Made) : Exchange Answer → Made → Prop
  | ⟨.client (.send r), _⟩, made' => ∃ token, Handles (cl.onWire token r) made made'
  | _, made' => made' = made

def keyedPasses (cl : Client) (key : ObjectKey) (edits : Cluster → Cluster → Prop) :
    Environment Answer (Except Error Action) (Store.Record × Made) :=
  Store.surroundings (PassOver key) dealing edits (Provides cl)

section
variable {cl : Client} {key : ObjectKey} {edits : Cluster → Cluster → Prop} {c : Cluster}
  {u w : Scene Answer (Except Error Action) (Store.Record × Made)} {team : String}

theorem loaded_mem (h : (keyedPasses cl key edits).Runs (.start (.start c, [])) w)
    {e : Errand Answer (Except Error Action)} (he : e ∈ w.errands) {k : ObjectKey} {loaded : Cluster}
    {t : List (Exchange Answer)} (ht : e.told = ⟨.plain (.load k), .ok loaded⟩ :: t) :
    loaded ∈ w.state.1.versions := by
  have hE : Store.Keeps (keyedPasses cl key edits) dealing Prod.fst edits :=
    Store.keeps_surroundings
  have hx : ⟨.plain (.load k), .ok loaded⟩ ∈ e.told := by simp [ht]
  exact hE.fitsIn (Store.Record.sound_start c) h he hx rfl

theorem request_of_poses (hk : ∀ {old new}, edits old new → new.spec = old.spec)
    (h : (keyedPasses cl key edits).Runs (.start (.start c, [])) w) (ht : SameTeam w team)
    {e : Errand Answer (Except Error Action)} (he : e ∈ w.errands) {r : Client.Request}
    (hr : r.method = .post) (hq : e.Poses (.client (.send r))) :
    r = Client.createRequest (c.spec.createRequest team) := by
  have hE : Steered (keyedPasses cl key edits) dealing Prod.fst edits := steered_surroundings
  obtain ⟨k, loaded, t, htold, -, -, rfl⟩ := posted_of_poses h ht he hr hq
  rw [hE.spec hk rfl h loaded (loaded_mem h he htold)]

/-- The key of each request to create the cluster of an object. -/
def keyOf (c : Cluster) (team : String) : String :=
  (Uuid.ofName .operator (utf8 (c.spec.createRequest team).payload)).text

/-- There is no cluster, or the one that was made for the key. -/
def MadeOnce (key : String) (made : Made) : Prop :=
  made = [] ∨ ∃ id, made = [(some key, id)]

theorem madeOnce_provides {key : String} {made made' : Made} {x : Exchange Answer}
    (hx : ∀ r, r.method = .post → x.question = .client (.send r) →
      ∀ token, (cl.onWire token r).header? "idempotency-key" = some key)
    (h : Provides cl made x made') (ih : MadeOnce key made) : MadeOnce key made' := by
  obtain ⟨q | q, a⟩ := x
  · obtain rfl : made' = made := h
    exact ih
  · cases q with
    | check =>
      obtain rfl : made' = made := h
      exact ih
    | state =>
      obtain rfl : made' = made := h
      exact ih
    | send r =>
      obtain ⟨token, hm⟩ := h
      cases hm with
      | other => exact ih
      | @made id hp hn =>
        have hkey := hx r hp rfl token
        rw [hkey] at hn ⊢
        rcases ih with rfl | ⟨id', rfl⟩
        · exact .inr ⟨id, rfl⟩
        · exact absurd (by simp) (hn key rfl)

theorem madeOnce_of_runs (hk : ∀ {old new}, edits old new → new.spec = old.spec)
    (h : (keyedPasses cl key edits).Runs (.start (.start c, [])) w) (ht : SameTeam w team) :
    MadeOnce (keyOf c team) w.state.2 := by
  induction h with
  | refl => exact .inl rfl
  | @tail w w' hw hs ih =>
    have hw' := ht.before hs
    cases hs with
    | start _ => exact ih hw'
    | turn hturn =>
      refine madeOnce_provides ?_ hturn.answers.2 (ih hw')
      intro r hr hq token
      obtain ⟨e, he, -, ha⟩ := hturn.mem
      rw [hq] at ha
      rw [request_of_poses hk hw hw' he hr (.inl ha)]
      exact (cl.onWire_key token rfl).2
    | drift hd =>
      rw [hd.2]
      exact ih hw'

/-- An object that was found pending was not `creating` before. -/
theorem not_onward_pending {v b : Cluster} (hv : v.phaseText = Phase.creating.text)
    (hb : b.phaseText = Phase.pending.text) : ¬ Onward v b := by
  rintro (h | ⟨p, q, hp, hq, hl⟩)
  · rw [hv, hb] at h
    exact absurd h (by decide)
  · rw [hv, Phase.ofText?_text] at hp
    rw [hb, Phase.ofText?_text] at hq
    obtain rfl := Option.some.inj hp
    obtain rfl := Option.some.inj hq
    exact absurd hl (by decide)

/-- All that passes post is one request, which comes with one key. It is posted
by passes that found the object pending and not to go, and by none that is
started when the object is `creating` already and reads what is stored. So the
provider makes at most one cluster. -/
theorem created_once (hk : ∀ {old new}, edits old new → new.spec = old.spec)
    (h : (keyedPasses cl key edits).Runs (.start (.start c, [])) w) (ht : SameTeam w team) :
    (∀ e ∈ w.errands, ∀ r, r.method = .post → e.Poses (.client (.send r)) →
      (∀ token, (cl.onWire token r).body = some (c.spec.createRequest team).payload ∧
        (cl.onWire token r).header? "idempotency-key" =
          some (Uuid.ofName .operator (utf8 (c.spec.createRequest team).payload)).text) ∧
      ∃ k loaded t, e.told = ⟨.plain (.load k), .ok loaded⟩ :: t ∧
        loaded.phaseText = Phase.pending.text ∧ loaded.metadata.isDeleting = false) ∧
    (∀ u, (keyedPasses cl key edits).Runs (.start (.start c, [])) u →
      (∃ v ∈ u.state.1.versions, v.phaseText = Phase.creating.text) →
      (Store.upToDate (keyedPasses cl key edits) dealing Prod.fst).Runs u w →
      ∀ i e, u.errands.length ≤ i → w.errands[i]? = some e →
        ∀ r, r.method = .post → ¬ e.Poses (.client (.send r))) ∧
    w.state.2.length ≤ 1 := by
  have hE : Steered (keyedPasses cl key edits) dealing Prod.fst edits := steered_surroundings
  refine ⟨?_, ?_, ?_⟩
  · intro e he r hr hq
    obtain ⟨k, loaded, t, htold, hp, hd, -⟩ := posted_of_poses h ht he hr hq
    refine ⟨fun token => ?_, k, loaded, t, htold, hp, hd⟩
    rw [request_of_poses hk h ht he hr hq]
    exact cl.onWire_key token rfl
  · intro u hu ⟨v, hv, hcre⟩ huw i e hi he r hr hq
    obtain ⟨k, loaded, t, htold, hp, -, -⟩ :=
      posted_of_poses h ht (List.mem_of_getElem? he) hr hq
    have hx : ⟨.plain (.load k), .ok loaded⟩ ∈ e.told := by simp [htold]
    exact not_onward_pending hcre hp (hE.later_loads rfl hu hv huw hi he hx rfl)
  · rcases madeOnce_of_runs hk h ht with hm | ⟨id, hm⟩
    · simp [hm]
    · simp [hm]

end

/-! ## A create request that is sent again -/

namespace Sample

open Reconcile.Sample

def client : Client := ⟨"https://api.example.com", "https://api.example.com", "operator", 0⟩

def KeepsSpec (old new : Cluster) : Prop := new.spec = old.spec

/-- A pass that does not get to tell that the cluster was made. -/
def toldLost : List (Exchange Answer) :=
  toldCreation ++ [⟨.plain (.replaceStatus (entered pending .creating now)), .error (.conflict "")⟩]

def taken : Http.Response := ⟨409, .ok ""⟩

def toldAgain : List (Exchange Answer) :=
  [⟨.plain (.load key), .ok pending⟩, ⟨.client .check, .active⟩, posted request (.ok taken),
    ⟨.plain .now, now⟩, move]

def made : Made := [(some (keyOf cluster "t1"), "c1")]

def atAgain : Scene Answer (Except Error Action) (Store.Record × Made) :=
  ⟨(⟨some creating, [creating, pending, fresh]⟩, made),
    [⟨connectedPass, toldSetup⟩, ⟨connectedPass, toldLost⟩, ⟨connectedPass, toldAgain⟩]⟩

def afterAgain : Scene Answer (Except Error Action) (Store.Record × Made) :=
  ⟨atAgain.state, atAgain.errands ++ [⟨connectedPass, [⟨.plain (.load key), .ok creating⟩]⟩]⟩

theorem again_runs : (keyedPasses client key KeepsSpec).Runs (.start (.start fresh, [])) atAgain := by
  have h₁ : (keyedPasses client key KeepsSpec).Runs (.start (.start fresh, []))
      ⟨(⟨some pending, [pending, fresh]⟩, []), [⟨connectedPass, toldSetup⟩]⟩ := by
    refine Environment.Runs.performs .refl passOver (.later (.later (.later .start))) ?_
    refine .still (Store.deals_answers rfl (.read List.mem_cons_self) rfl) ?_
    refine .still (Store.apart_answers rfl rfl) ?_
    exact .last (Store.deals_answers rfl (.accepted ⟨fresh, "2", rfl, rfl, by decide, rfl⟩) rfl)
  have h₂ : (keyedPasses client key KeepsSpec).Runs (.start (.start fresh, []))
      ⟨(⟨some pending, [pending, fresh]⟩, made),
        [⟨connectedPass, toldSetup⟩, ⟨connectedPass, toldLost⟩]⟩ := by
    have hm : (keyedPasses client key KeepsSpec).answers (⟨some pending, [pending, fresh]⟩, [])
        (posted request (.ok accepted)) (⟨some pending, [pending, fresh]⟩, made) := by
      refine Store.apart_answers rfl ⟨"", ?_⟩
      have hk := (client.onWire_key "" (r := Client.createRequest request) rfl).2
      have hh : Handles (client.onWire "" (Client.createRequest request)) [] [(_, "c1")] :=
        .made rfl fun _ _ => List.not_mem_nil
      rw [hk] at hh
      exact hh
    refine h₁.performs passOver (.later (.later (.later (.later (.later .start))))) ?_
    refine .still (Store.deals_answers rfl (.read List.mem_cons_self) rfl) ?_
    refine .still (Store.apart_answers rfl rfl) (.cons hm ?_)
    refine .still (Store.apart_answers rfl rfl) ?_
    exact .last (Store.deals_answers rfl .refused rfl)
  refine h₂.performs passOver (.later (.later (.later (.later (.later .start))))) ?_
  refine .still (Store.deals_answers rfl (.read (by simp)) rfl) ?_
  refine .still (Store.apart_answers rfl rfl) ?_
  refine .still (Store.apart_answers rfl ⟨"", .other⟩) ?_
  refine .still (Store.apart_answers rfl rfl) ?_
  exact .last (Store.deals_answers rfl (.accepted ⟨pending, "3", rfl, rfl, by decide, rfl⟩) rfl)

theorem later_runs :
    (Store.upToDate (keyedPasses client key KeepsSpec) dealing Prod.fst).Runs atAgain afterAgain := by
  refine Environment.Runs.performs .refl passOver (.later .start) (.last ⟨?_, ?_⟩)
  · exact Store.deals_answers rfl (.read List.mem_cons_self) rfl
  · intro c hc
    cases hc
    rfl

theorem team_of_resolves {told : List (Exchange Answer)} {other : String}
    (hs : ∀ k loaded t, told = ⟨.plain (.load k), .ok loaded⟩ :: t → loaded.spec = cluster.spec)
    (h : Resolves .start told other) : other = "t1" := by
  obtain ⟨k, loaded, t, u, rfl, -, -, he⟩ := h
  obtain ⟨heard, he, -⟩ := ends_interpret.mp he
  have hspec := hs k loaded _ rfl
  rcases ends_resolveTeam he with ⟨ht, -⟩ | ⟨ht, -⟩
  · rw [hspec] at ht
    exact (Option.some.inj ht).symm
  · rw [hspec] at ht
    cases ht

theorem sameTeam : SameTeam afterAgain "t1" := by
  intro e he
  refine ⟨.start, cluster.metadata, ?_, fun other hr => team_of_resolves ?_ hr⟩
  · simp only [afterAgain, atAgain, List.mem_append, List.mem_cons, List.not_mem_nil, or_false] at he
    rcases he with (rfl | rfl | rfl) | rfl <;> rfl
  · intro k loaded t ht
    simp only [afterAgain, atAgain, List.mem_append, List.mem_cons, List.not_mem_nil, or_false] at he
    rcases he with (rfl | rfl | rfl) | rfl <;> cases ht <;> rfl

end Sample

/-- Two passes post the request, and there is one cluster. -/
theorem created_once_again : ∃ w e e' r,
    (keyedPasses Sample.client Reconcile.Sample.key Sample.KeepsSpec).Runs
      (.start (.start Reconcile.Sample.fresh, [])) w ∧
      w.errands[1]? = some e ∧ e.Poses (.client (.send r)) ∧
      w.errands[2]? = some e' ∧ e'.Poses (.client (.send r)) ∧
      (∀ token, (Sample.client.onWire token r).header? "idempotency-key" =
        some (keyOf Reconcile.Sample.cluster "t1")) ∧
      (∀ e, w.errands[3]? = some e → ¬ e.Poses (.client (.send r))) ∧ w.state.2.length = 1 := by
  have h := Sample.again_runs.trans (Store.runs_of_upToDate Sample.later_runs)
  obtain ⟨hr, hl, -⟩ := created_once (fun hk => hk) h Sample.sameTeam
  have hp : (⟨Sample.connectedPass, Sample.toldLost⟩ :
      Errand Answer (Except Error Action)).Poses
        (.client (.send (Client.createRequest Sample.request))) :=
    .inr ⟨posted Sample.request (.ok Sample.accepted), by simp [Sample.toldLost, Sample.toldCreation], rfl⟩
  have hp' : (⟨Sample.connectedPass, Sample.toldAgain⟩ :
      Errand Answer (Except Error Action)).Poses
        (.client (.send (Client.createRequest Sample.request))) :=
    .inr ⟨posted Sample.request (.ok Sample.taken), by simp [Sample.toldAgain], rfl⟩
  have hc : ∃ v ∈ Sample.atAgain.state.1.versions, v.phaseText = Phase.creating.text :=
    ⟨Reconcile.Sample.creating, List.mem_cons_self, rfl⟩
  refine ⟨_, _, _, _, h, rfl, hp, rfl, hp', ?_, ?_, rfl⟩
  · exact fun token => ((hr _ (by simp [Sample.afterAgain, Sample.atAgain]) _ rfl hp).1 token).2
  · intro e he
    exact hl _ Sample.again_runs hc Sample.later_runs 3 e (Nat.le_refl 3) he _ rfl

end ClusterOperator.Reconcile.Connected
