import ClusterOperator.Proofs.Reconcile.Acceptance

/-!
# Whose cluster is recorded

The id that a status records is that of the first cluster of the name that is
listed for any team. It is a cluster of the team that the create request named
only if none of another team is listed before.
-/

namespace ClusterOperator.Reconcile.Connected

open Resource (Cluster ObjectKey)
open Kubernetes (Part)
open Provider (Client ClusterDetail ClusterList CreateRequest)
open Program
open Store (merge versionOf withVersion)

/-! ## What was listed -/

/-- What the client was told, apart from all else. -/
def clientPart (told : List (Exchange Answer)) : List (Exchange Client.Answer) :=
  told.filterMap fun
    | ⟨.client q, a⟩ => some ⟨q, a⟩
    | ⟨.plain _, _⟩ => none

theorem clientPart_append (t u : List (Exchange Answer)) :
    clientPart (t ++ u) = clientPart t ++ clientPart u := List.filterMap_append

theorem clientPart_onBehalf (heard : List (Exchange Client.Answer)) :
    clientPart (heard.map onBehalf) = heard := by
  induction heard with
  | nil => rfl
  | cons x heard ih => exact congrArg (x :: ·) ih

def listed (told : List (Exchange Answer)) : List (String × ClusterDetail) :=
  Client.listed (clientPart told)

theorem listed_append (t u : List (Exchange Answer)) : listed (t ++ u) = listed t ++ listed u := by
  rw [listed, clientPart_append, Client.listed_append]
  rfl

theorem listed_onBehalf (heard : List (Exchange Client.Answer)) :
    listed (heard.map onBehalf) = Client.listed heard := by
  rw [listed, clientPart_onBehalf]

theorem listed_of_spells {key : ObjectKey} {c sent : Cluster} {name : String} {d : ClusterDetail}
    {v : List (Exchange Reconcile.Answer)} {told : List (Exchange Answer)}
    (hs : Spells answer (⟨.load key, .ok c⟩ :: ⟨.clusterNamed name, .ok d⟩ :: v) told)
    (ht : Takes c d v (.replaceStatus sent)) :
    ∃ heard, Ends (Client.byName name).run heard (.ok d) ∧ listed told = Client.listed heard ∧
      ∀ x ∈ heard, onBehalf x ∈ told := by
  cases ht with
  | write =>
  cases hs with
  | cons hl hs =>
  cases hs with
  | cons hb hs =>
  cases hs with
  | cons hr hs =>
  cases hs with
  | cons hn hs =>
  cases hs
  obtain rfl := ends_query.mp hl
  obtain ⟨heard, hb₁, rfl⟩ := ends_call.mp hb
  obtain ⟨heard', hr₁, rfl⟩ := ends_call.mp hr
  obtain rfl := ends_query.mp hn
  refine ⟨heard, hb₁, ?_, fun x hx => ?_⟩
  · rw [listed_append, listed_append, listed_append, listed_append, listed_onBehalf,
      listed_onBehalf, Client.listed_fetch hr₁]
    exact List.append_nil _
  · simp [List.mem_map_of_mem hx]

/-! ## Honest listings -/

/-- A provider lists a cluster under its own team only, and details no cluster
but the one that was asked for. -/
def Honest (teamOf : String → String) : Exchange Answer → Prop
  | ⟨.client (.send r), .ok response⟩ =>
    (∀ team list, r.team? = some team → Client.decode ClusterList.read response = .ok list →
      ∀ d ∈ list.clusters, teamOf d.id = team) ∧
    ∀ id d, r = .get (Client.clusterPath id) → Client.decode ClusterDetail.read response = .ok d →
      d.isEmpty ∨ d.id = id
  | _ => True

/-- Each cluster of the name that is listed under another team comes after one
that is listed under the team. -/
def ListedFirst (listed : List (String × ClusterDetail)) (name team : String) : Prop :=
  ∀ before other d after, listed = before ++ (other, d) :: after → d.name = name → other ≠ team →
    ∃ d', (team, d') ∈ before ∧ d'.name = name

theorem listedFirst_iff {listed : List (String × ClusterDetail)} {name team first : String}
    {d : ClusterDetail} (h : listed.find? (·.2.name = name) = some (first, d)) :
    ListedFirst listed name team ↔ first = team := by
  obtain ⟨hd, before, after, rfl, hb⟩ := List.find?_eq_some_iff_append.mp h
  constructor
  · intro hl
    by_contra hne
    obtain ⟨d', hm, hn⟩ := hl before first d after rfl (by simpa using hd) hne
    simpa [hn] using hb _ hm
  · rintro rfl pre other d₁ post he hn hne
    rcases List.append_eq_append_iff.mp he with ⟨mid, rfl, hm⟩ | ⟨mid, rfl, hm⟩
    · cases mid with
      | nil => cases hm; exact absurd rfl hne
      | cons x mid => cases hm; exact ⟨d, by simp, by simpa using hd⟩
    · cases mid with
      | nil => cases hm; exact absurd rfl hne
      | cons x mid => cases hm; simpa [hn] using hb (other, d₁) (by simp)

theorem team_of_byName {teamOf : String → String} {heard : List (Exchange Client.Answer)}
    (hh : ∀ x ∈ heard, Honest teamOf (onBehalf x)) {name : String} {d : ClusterDetail}
    (h : Ends (Client.byName name).run heard (.ok d)) (hd : d.isEmpty = false) :
    ∃ first, (Client.listed heard).find? (·.2.name = name) = some (teamOf d.id, first) := by
  have hf := Client.ends_byName h
  split at hf
  next team first he =>
    obtain ⟨response, hm, hdec⟩ := hf
    have hid : d.id = first.id := by
      rcases (hh _ hm).2 first.id d rfl hdec with h | h
      · rw [hd] at h
        cases h
      · exact h
    obtain ⟨r, response, list, hm, ht, hdec, hin⟩ := Client.mem_listed (List.mem_of_find?_eq_some he)
    have hteam : teamOf d.id = team := by
      rw [hid]
      exact (hh _ hm).1 team list ht hdec first hin
    exact ⟨first, by rw [hteam, he]⟩
  · rw [hf] at hd
    cases hd

/-! ## Whole runs -/

/-- A write to a stored object that is accepted, and records an id for the first time. -/
def Records (r : Store.Record) (id : String) (r' : Store.Record) : Prop :=
  ∃ stored kept, r.current = some stored ∧ r'.versions = kept :: r.versions ∧
    stored.clusterId = none ∧ kept.clusterId = some id

def honestPasses (teamOf : String → String) (key : ObjectKey) (edits : Cluster → Cluster → Prop) :
    Environment Answer (Except Error Action) (Store.Record × Unit) :=
  Store.surroundings (PassOver key) dealing edits fun _ x _ => Carried x ∧ Honest teamOf x

section
variable {teamOf : String → String} {key : ObjectKey} {edits : Cluster → Cluster → Prop}
  {c : Cluster} {w w' : Scene Answer (Except Error Action) (Store.Record × Unit)}

theorem honest_of_runs (h : (honestPasses teamOf key edits).Runs (.start (.start c, ())) w) :
    ∀ e ∈ w.errands, ∀ x ∈ e.told, Honest teamOf x := by
  refine Environment.Runs.told ?_ h
  intro s x s' hx
  exact hx.2.2

/-- The recorded cluster is one of the team that its name is first listed under. -/
theorem first_of_records (h : (honestPasses teamOf key edits).Runs (.start (.start c, ())) w)
    {i : Nat} {x : Exchange Answer} (ht : (honestPasses teamOf key edits).Turn w i x w') {id : String}
    (hr : Records w.state.1 id w'.state.1) :
    ∃ e, w.errands[i]? = some e ∧ ∃ stored ∈ w.state.1.versions,
      stored.phaseText = Phase.creating.text ∧ ∃ first,
        (listed e.told).find? (·.2.name = stored.spec.name) = some (teamOf id, first) := by
  have hE : Steered (honestPasses teamOf key edits) dealing Prod.fst edits := steered_surroundings
  have hs := hE.sound (Store.Record.sound_start c) h
  obtain ⟨stored, kept, hc, hn, ho, hk⟩ := hr
  obtain ⟨part, sent, _, hx, b, v, hb, hv, -, rfl⟩ := hE.accepts_of_new ht hn
  obtain rfl : b = stored := Option.some.inj (hb.symm.trans hc)
  obtain ⟨e, he, hi, ha⟩ := ht.mem
  obtain ⟨s, k, loaded, t, hsp, hq, hf⟩ := fits_of_asks h he ha hx
  have hm := hs.current_mem hc
  cases part with
  | main => cases (hk.symm.trans ho)
  | status =>
    rcases recording_of_inquires hs hq hf hm hv with hid | ⟨d, u, t', rfl, rfl, hp, hl, hd, hid, ht'⟩
    · cases hk.symm.trans (hid.trans ho)
    obtain rfl : d.id = id := Option.some.inj (hid.symm.trans hk)
    -- a lookup by id is for an object that records one already
    rcases ends_lookUp hl with ⟨_, hsome, -⟩ | ⟨-, rfl⟩
    · cases hsome.symm.trans ho
    obtain ⟨heard, hby, hlist, hin⟩ := listed_of_spells hsp ht'
    have hh : ∀ x ∈ heard, Honest teamOf (onBehalf x) :=
      fun x hx => honest_of_runs h e he _ (hin x hx)
    obtain ⟨first, hfind⟩ := team_of_byName hh hby hd
    exact ⟨e, hi, b, hm, text_of_ofText? hp nofun, first, hlist ▸ hfind⟩

/-- The first id that is recorded comes after the turn of a pass that made the
object `creating`. It is the id of a cluster of the team that this pass's create
request named just if no other team's cluster of the name was listed before. -/
theorem recorded_in_requested_team (hc : c.status = none)
    (hk : ∀ {old new}, edits old new → new.spec = old.spec)
    (h : (honestPasses teamOf key edits).Runs (.start (.start c, ())) w)
    {j : Nat} {y : Exchange Answer} (ht : (honestPasses teamOf key edits).Turn w j y w') {id : String}
    (hr : Records w.state.1 id w'.state.1) :
    ∃ u i x u', (honestPasses teamOf key edits).Runs (.start (.start c, ())) u ∧
      (honestPasses teamOf key edits).Turn u i x u' ∧ (honestPasses teamOf key edits).Runs u' w ∧
      BecomesCreating u.state.1 u'.state.1 ∧
      ∃ mover team response observer, u.errands[i]? = some mover ∧
        PostedOnce mover.told (c.spec.createRequest team) response ∧ w.errands[j]? = some observer ∧
        (teamOf id = team ↔ ListedFirst (listed observer.told) c.spec.name team) := by
  have hE : Steered (honestPasses teamOf key edits) dealing Prod.fst edits := steered_surroundings
  obtain ⟨observer, hj, stored, hm, hp, first, hf⟩ := first_of_records h ht hr
  have hn : c.phaseText ≠ Phase.creating.text := by
    simp only [Cluster.phaseText, hc]
    decide
  obtain ⟨u, i, x, u', hu, htu, huw, hb⟩ := hE.becomesCreating rfl hn h ⟨stored, hm, hp⟩
  obtain ⟨mover, hi, loaded, hl, team, response, hpost, -⟩ :=
    posted_of_creating (fun hx => hx.1) hu htu hb
  rw [hE.spec hk rfl hu loaded hl] at hpost
  rw [hE.spec hk rfl h stored hm] at hf
  exact ⟨u, i, x, u', hu, htu, huw, hb, mover, team, response, observer, hi, hpost, hj,
    (listedFirst_iff hf).symm⟩

end

/-! ## A name that two teams have -/

namespace Sample

open Reconcile.Sample

def teams : Provider.TeamList := ⟨[⟨"t2", "", true⟩, ⟨"t1", "", false⟩]⟩

def prod (id : String) : Json := .obj [("id", id), ("name", "prod")]

def teamOf (id : String) : String := if id = "c2" then "t2" else "t1"

def respond (j : Json) : Http.Response := ⟨200, .ok j.render⟩

def list (id : String) : Json := .obj [("clusters", .arr [prod id])]

def listRequest (team : String) : Client.Request :=
  { Client.Request.get Client.clustersPath with query := [("team_id", team)] }

def detailRequest : Client.Request := .get (Client.clusterPath "c2")

theorem decoded {α β : Type} {read : Nat → Json.Read α} {response : Http.Response} {f : α → β} {b : β}
    (h : (Client.decode read response).toOption.map f = some b) :
    ∃ a, Client.decode read response = .ok a ∧ f a = b := by
  cases hd : Client.decode read response with
  | error e => rw [hd] at h; cases h
  | ok a => rw [hd] at h; exact ⟨a, rfl, Option.some.inj h⟩

theorem decoded_list (id : String) (hid : id = "c1" ∨ id = "c2") : ∃ l d,
    Client.decode ClusterList.read (respond (list id)) = .ok l ∧ l.clusters = [d] ∧
      d.id = id ∧ d.name = "prod" := by
  have h : (Client.decode ClusterList.read (respond (list id))).toOption.map
      (fun l => l.clusters.map fun d => (d.id, d.name)) = some [(id, "prod")] := by
    rcases hid with rfl | rfl <;> decide +kernel
  obtain ⟨l, hl, hm⟩ := decoded h
  obtain ⟨d, hd, hm⟩ := List.map_eq_singleton_iff.mp hm
  exact ⟨l, d, hl, hd, congrArg Prod.fst hm, congrArg Prod.snd hm⟩

/-! ### The lookup -/

def lookup : List (Exchange Client.Answer) :=
  [⟨.check, .active⟩, ⟨.send (.get "/teams"), .ok (respond teams.toJson)⟩,
    ⟨.check, .active⟩, ⟨.send (listRequest "t2"), .ok (respond (list "c2"))⟩,
    ⟨.check, .active⟩, ⟨.send (listRequest "t1"), .ok (respond (list "c1"))⟩,
    ⟨.check, .active⟩, ⟨.send detailRequest, .ok (respond (prod "c2"))⟩]

theorem lookup_ends : ∃ d, Ends (Client.byName "prod").run lookup (.ok d) ∧ d.id = "c2" := by
  obtain ⟨l, hl, rfl⟩ : ∃ l, Client.decode Provider.TeamList.read (respond teams.toJson) = .ok l ∧
      id l = teams := decoded (by decide +kernel)
  obtain ⟨l₂, d₂, hl₂, hd₂, hi₂, hn₂⟩ := decoded_list "c2" (.inr rfl)
  obtain ⟨l₁, d₁, hl₁, hd₁, hi₁, hn₁⟩ := decoded_list "c1" (.inl rfl)
  obtain ⟨d, hd, hi⟩ : ∃ d, Client.decode ClusterDetail.read (respond (prod "c2")) = .ok d ∧
      d.id = "c2" := decoded (by decide +kernel)
  have fetched : ∀ {α : Type} {read : Nat → Json.Read α} {r : Client.Request}
      {response : Http.Response} {a : α}, Client.decode read response = .ok a →
      Ends (Client.fetch read r).run [⟨.check, .active⟩, ⟨.send r, .ok response⟩] (.ok a) :=
    fun h => Client.ends_fetch.mpr ⟨.active, _, rfl, rfl, h⟩
  have rest : Ends (Client.clustersOf [⟨"t1", "", false⟩]).run
      [⟨.check, .active⟩, ⟨.send (listRequest "t1"), .ok (respond (list "c1"))⟩] (.ok [d₁]) :=
    (fetched hl₁).try_bind (Client.ends_value.mpr ⟨rfl, by rw [hd₁]; rfl⟩)
  have all : Ends Client.allClusters.run (lookup.take 6) (.ok [d₂, d₁]) :=
    (fetched hl).try_bind ((fetched hl₂).try_bind (rest.try_bind
      (Client.ends_value.mpr ⟨rfl, by rw [hd₂]; rfl⟩)))
  refine ⟨d, all.try_bind (t := lookup.drop 6) ?_, hi⟩
  have found : [d₂, d₁].find? (·.name = "prod") = some d₂ := List.find?_cons_of_pos (by simp [hn₂])
  rw [found]
  show Ends (Client.detail d₂.id).run _ _
  rw [hi₂]
  exact fetched hd

/-! ### Honesty -/

theorem clusterPath_inj {a b : String} (h : Client.clusterPath a = Client.clusterPath b) : a = b :=
  (String.append_right_inj _).mp h

theorem honest_teams : Honest teamOf ⟨.client (.send (.get "/teams")), .ok (respond teams.toJson)⟩ := by
  refine ⟨nofun, fun id d h => ?_⟩
  have h := congrArg (·.path.toList[1]?) h
  simp [Client.Request.get, Client.clusterPath, Client.clustersPath] at h

theorem honest_list (id : String) (hid : id = "c1" ∨ id = "c2") : Honest teamOf
    ⟨.client (.send (listRequest (teamOf id))), .ok (respond (list id))⟩ := by
  obtain ⟨l, d, hl, hd, hi, -⟩ := decoded_list id hid
  refine ⟨fun team l' ht hl' d' hm => ?_, fun _ _ h => ?_⟩
  · obtain rfl : l = l' := Except.ok.inj (hl.symm.trans hl')
    rw [hd, List.mem_singleton] at hm
    rw [hm, hi]
    exact Option.some.inj ht
  · exact absurd (congrArg Client.Request.query h) nofun

theorem honest_detail : Honest teamOf ⟨.client (.send detailRequest), .ok (respond (prod "c2"))⟩ := by
  obtain ⟨d, hd, hi⟩ : ∃ d, Client.decode ClusterDetail.read (respond (prod "c2")) = .ok d ∧
      d.id = "c2" := decoded (by decide +kernel)
  refine ⟨nofun, fun id d' h hd' => .inr ?_⟩
  obtain rfl : d = d' := Except.ok.inj (hd.symm.trans hd')
  rw [hi]
  exact clusterPath_inj (congrArg Client.Request.path h)

theorem honest_posted (r : CreateRequest) (response : Http.Response) :
    Honest teamOf (posted r (.ok response)) :=
  ⟨nofun, fun _ _ h => absurd (congrArg Client.Request.method h) nofun⟩

/-! ### The run -/

abbrev surroundings : Environment Answer (Except Error Action) (Store.Record × Unit) :=
  honestPasses teamOf key fun _ _ => False

def accepted : Http.Response := ⟨201, .ok ""⟩

def toldSetup : List (Exchange Answer) :=
  [⟨.plain (.load key), .ok fresh⟩, ⟨.plain .now, now⟩,
    ⟨.plain (.replaceStatus (entered fresh .pending now)), .ok pending⟩]

def toldCreation : List (Exchange Answer) :=
  [⟨.plain (.load key), .ok pending⟩, ⟨.client .check, .active⟩, posted request (.ok accepted),
    ⟨.plain .now, now⟩]

def move : Exchange Answer := ⟨.plain (.replaceStatus (entered pending .creating now)), .ok creating⟩

def toldObservation : List (Exchange Answer) :=
  ⟨.plain (.load key), .ok creating⟩ :: (lookup.map onBehalf ++
    ([⟨.check, .active⟩,
      ⟨.send (.get (Client.clusterPath "c2" ++ "/roles/postgres")), .error (.transport "")⟩].map onBehalf ++
    [⟨.plain .now, now⟩]))

def atCreation : Scene Answer (Except Error Action) (Store.Record × Unit) :=
  ⟨(⟨some pending, [pending, fresh]⟩, ()),
    [⟨connectedPass, toldSetup⟩, ⟨connectedPass, toldCreation⟩]⟩

def afterCreation : Scene Answer (Except Error Action) (Store.Record × Unit) :=
  ⟨(⟨some creating, [creating, pending, fresh]⟩, ()),
    [⟨connectedPass, toldSetup⟩, ⟨connectedPass, toldCreation ++ [move]⟩]⟩

def atRecording : Scene Answer (Except Error Action) (Store.Record × Unit) :=
  ⟨afterCreation.state, afterCreation.errands ++ [⟨connectedPass, toldObservation⟩]⟩

theorem passOver : PassOver key connectedPass := ⟨.start, cluster.metadata, rfl, rfl⟩

theorem creation_runs : surroundings.Runs (.start (.start fresh, ())) atCreation := by
  have h₀ : surroundings.Runs (.start (.start fresh, ())) ⟨(.start fresh, ()), [⟨connectedPass, []⟩]⟩ :=
    Environment.Runs.starts .refl passOver
  have h₁ := h₀.turns 0 ⟨.plain (.load key), .ok fresh⟩ (.start fresh, ()) rfl .now
    (Store.deals_answers rfl (.read List.mem_cons_self) ⟨trivial, trivial⟩)
  have h₂ := h₁.turns 0 ⟨.plain .now, now⟩ (.start fresh, ()) rfl (.later .now)
    (Store.apart_answers rfl ⟨trivial, trivial⟩)
  have h₃ := h₂.turns 0 ⟨.plain (.replaceStatus (entered fresh .pending now)), .ok pending⟩
    (⟨some pending, [pending, fresh]⟩, ()) rfl (.later (.later .now))
    (Store.deals_answers rfl (.accepted ⟨fresh, "2", rfl, rfl, by decide, rfl⟩) ⟨trivial, trivial⟩)
  have h₄ := h₃.starts passOver
  have h₅ := h₄.turns 1 ⟨.plain (.load key), .ok pending⟩ (⟨some pending, [pending, fresh]⟩, ()) rfl .now
    (Store.deals_answers rfl (.read List.mem_cons_self) ⟨trivial, trivial⟩)
  have h₆ := h₅.turns 1 ⟨.client .check, .active⟩ (⟨some pending, [pending, fresh]⟩, ()) rfl
    (.later .now) (Store.apart_answers rfl ⟨trivial, trivial⟩)
  have h₇ := h₆.turns 1 (posted request (.ok accepted)) (⟨some pending, [pending, fresh]⟩, ()) rfl
    (.later (.later .now)) (Store.apart_answers rfl ⟨trivial, honest_posted _ _⟩)
  exact h₇.turns 1 ⟨.plain .now, now⟩ (⟨some pending, [pending, fresh]⟩, ()) rfl
    (.later (.later (.later .now))) (Store.apart_answers rfl ⟨trivial, trivial⟩)

theorem creation_turn : surroundings.Turn atCreation 1 move afterCreation :=
  ⟨_, rfl, .later (.later (.later (.later .now))),
    Store.deals_answers rfl (.accepted ⟨pending, "3", rfl, rfl, by decide, rfl⟩) ⟨trivial, trivial⟩, rfl⟩

theorem creation_becomes : BecomesCreating atCreation.state.1 afterCreation.state.1 :=
  ⟨pending, creating, rfl, rfl, by decide, rfl⟩

theorem observation_asks : ∃ d, d.id = "c2" ∧ connectedPass.Asks toldObservation
    (.plain (.replaceStatus (observed creating d (.error (.transport "")) now))) := by
  obtain ⟨d, hd, hi⟩ := lookup_ends
  refine ⟨d, hi, asks_interpret.mpr ⟨[⟨.load key, .ok creating⟩, ⟨.clusterNamed "prod", .ok d⟩,
    ⟨.connectionRole d.id, .error (.transport "")⟩, ⟨.now, now⟩], toldObservation, [],
    .replaceStatus _, ?_, ?_, .now, rfl⟩⟩
  -- the pass goes on only with an id that is not empty
  · cases d
    cases hi
    exact .later (.later (.later (.later .now)))
  · have hr : Ends (Client.role d.id).run [⟨.check, .active⟩,
        ⟨.send (.get (Client.clusterPath "c2" ++ "/roles/postgres")), .error (.transport "")⟩]
        (.error (.transport "")) := by
      rw [hi]
      exact .later (.later .now)
    have loaded : Ends (answer (.load key)) [⟨.plain (.load key), .ok creating⟩] (.ok creating) :=
      ends_query.mpr rfl
    have named : Ends (answer (.clusterNamed "prod")) (lookup.map onBehalf) (.ok d) :=
      ends_call.mpr ⟨lookup, hd, rfl⟩
    have role : Ends (answer (.connectionRole d.id)) _ (.error (.transport "")) :=
      ends_call.mpr ⟨_, hr, rfl⟩
    have timed : Ends (answer .now) [⟨.plain .now, now⟩] now := ends_query.mpr rfl
    exact .cons loaded (.cons named (.cons role (.cons timed .nil)))

theorem observation_told : ∀ x ∈ toldObservation,
    surroundings.answers afterCreation.state x afterCreation.state := by
  intro x hx
  simp only [toldObservation, lookup, List.map_cons, List.map_nil, List.cons_append,
    List.nil_append, List.mem_cons, List.not_mem_nil, or_false] at hx
  rcases hx with rfl | rfl | rfl | rfl | rfl | rfl | rfl | rfl | rfl | rfl | rfl | rfl
  · exact Store.deals_answers rfl (.read List.mem_cons_self) ⟨trivial, trivial⟩
  · exact Store.apart_answers rfl ⟨trivial, trivial⟩
  · exact Store.apart_answers rfl ⟨trivial, honest_teams⟩
  · exact Store.apart_answers rfl ⟨trivial, trivial⟩
  · exact Store.apart_answers rfl ⟨trivial, honest_list "c2" (.inr rfl)⟩
  · exact Store.apart_answers rfl ⟨trivial, trivial⟩
  · exact Store.apart_answers rfl ⟨trivial, honest_list "c1" (.inl rfl)⟩
  · exact Store.apart_answers rfl ⟨trivial, trivial⟩
  · exact Store.apart_answers rfl ⟨trivial, honest_detail⟩
  · exact Store.apart_answers rfl ⟨trivial, trivial⟩
  · exact Store.apart_answers rfl ⟨⟨"", rfl⟩, trivial⟩
  · exact Store.apart_answers rfl ⟨trivial, trivial⟩

theorem observation_runs : surroundings.Runs afterCreation atRecording := by
  obtain ⟨d, -, ha⟩ := observation_asks
  have h : surroundings.Runs afterCreation
      ⟨afterCreation.state, afterCreation.errands ++ [⟨connectedPass, []⟩]⟩ :=
    Environment.Runs.starts .refl passOver
  exact h.hears (i := 2) rfl (ha.hears (x := ⟨_, .ok creating⟩)).of_append observation_told

theorem recording_turn : ∃ y w', surroundings.Turn atRecording 2 y w' ∧
    Records atRecording.state.1 "c2" w'.state.1 := by
  obtain ⟨d, hi, ha⟩ := observation_asks
  let sent := observed creating d (.error (.transport "")) now
  let kept := withVersion (merge .status creating sent) "4"
  refine ⟨⟨.plain (.replaceStatus sent), .ok kept⟩,
    ⟨(⟨some kept, [kept, creating, pending, fresh]⟩, ()), _⟩, ⟨_, rfl, ha, ?_, rfl⟩, ?_⟩
  · exact Store.deals_answers rfl (.accepted ⟨creating, "4", rfl, rfl, by decide, rfl⟩)
      ⟨trivial, trivial⟩
  · have hd : d.isEmpty = false := by simp [ClusterDetail.isEmpty, hi]
    exact ⟨creating, kept, rfl, rfl, rfl, (observed_clusterId creating hd _ now).trans (by rw [hi])⟩

end Sample

theorem recorded_in_requested_team_late : ∃ y w',
    Sample.surroundings.Runs (.start (.start Reconcile.Sample.fresh, ())) Sample.atRecording ∧
      Sample.surroundings.Turn Sample.atRecording 2 y w' ∧
      Records Sample.atRecording.state.1 "c2" w'.state.1 ∧
      ∃ (mover observer : Errand Answer (Except Error Action)) (team : String)
        (response : Http.Response),
        PostedOnce mover.told (Reconcile.Sample.fresh.spec.createRequest team) response ∧
        Sample.atRecording.errands[2]? = some observer ∧
        ("t2" = team ↔ ListedFirst (listed observer.told) "prod" team) := by
  obtain ⟨y, w', ht, hr⟩ := Sample.recording_turn
  have h := (Sample.creation_runs.tail (.turn Sample.creation_turn)).trans Sample.observation_runs
  obtain ⟨_, _, _, _, -, -, -, -, mover, team, response, observer, -, hp, ho, hiff⟩ :=
    recorded_in_requested_team rfl nofun h ht hr
  exact ⟨y, w', h, ht, hr, mover, observer, team, response, hp, ho, hiff⟩

/-- What is recorded need not be of the requested team. -/
theorem recorded_in_other_team : ¬ ∀ {teamOf : String → String} {key : ObjectKey}
    {edits : Cluster → Cluster → Prop} {c : Cluster}
    {u u' w w' : Scene Answer (Except Error Action) (Store.Record × Unit)} {i j : Nat}
    {x y : Exchange Answer} {mover : Errand Answer (Except Error Action)} {team id : String}
    {response : Http.Response}, c.status = none →
    (∀ {old new}, edits old new → new.spec = old.spec) → c.spec.team? = some team →
    (honestPasses teamOf key edits).Runs (.start (.start c, ())) u →
    (honestPasses teamOf key edits).Turn u i x u' → BecomesCreating u.state.1 u'.state.1 →
    u.errands[i]? = some mover → PostedOnce mover.told (c.spec.createRequest team) response →
    (honestPasses teamOf key edits).Runs u' w → (honestPasses teamOf key edits).Turn w j y w' →
    Records w.state.1 id w'.state.1 → teamOf id = team := by
  intro h
  obtain ⟨y, w', ht, hr⟩ := Sample.recording_turn
  have once : PostedOnce Sample.toldCreation Sample.request Sample.accepted := by
    refine ⟨by simp [Sample.toldCreation], fun r reply hm => ?_⟩
    simpa [Sample.toldCreation, posted] using hm
  exact absurd (h rfl (fun he => he.elim) rfl Sample.creation_runs Sample.creation_turn Sample.creation_becomes rfl
    once Sample.observation_runs ht hr) (by decide)

end ClusterOperator.Reconcile.Connected
