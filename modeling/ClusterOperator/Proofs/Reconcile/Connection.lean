import ClusterOperator.Proofs.Provider.Calls
import ClusterOperator.Proofs.Reconcile.Steering
import ClusterOperator.Reconcile.Connected

/-!
# Passes with a client

A pass with a client asks the store what the pass itself asks, and the client
what its calls ask. So it writes for the reasons of a pass, and between two
questions of the pass stands a transcript of one call.
-/

namespace ClusterOperator.Reconcile.Connected

open Resource (Cluster ObjectKey)
open Kubernetes (Part)
open Provider (Client)
open Program
open Store (Dealing)

variable {α : Type} {told : List (Exchange Answer)} {s : Settings} {event : Resource.Metadata}

/-! ## Calls -/

def onBehalf (x : Exchange Client.Answer) : Exchange Answer := ⟨.client x.question, x.answer⟩

theorem spells_client {heard : List (Exchange Client.Answer)} :
    Spells (fun q => .query (Question.client q)) heard told ↔ told = heard.map onBehalf :=
  spells_query

theorem ends_call {p : Client.Call α} {a : Except Provider.Error α} : Ends (call p) told a ↔
    ∃ heard, Ends p.run heard a ∧ told = heard.map onBehalf := by
  refine ends_interpret.trans (exists_congr fun heard => and_congr_right fun _ => ?_)
  exact spells_client

theorem asks_call {p : Client.Call α} {q : Question} (h : Asks (call p) told q) :
    ∃ heard r, Asks p.run heard r ∧ q = .client r ∧ told = heard.map onBehalf := by
  obtain ⟨heard, t, u, r, hp, ht, hu, rfl⟩ := asks_interpret.mp h
  obtain ⟨rfl, rfl⟩ := asks_query.mp hu
  exact ⟨heard, r, hp, rfl, by rw [List.append_nil, spells_client.mp ht]⟩

/-! ## Questions of the pass itself -/

theorem asks_answer_plain {q r : Reconcile.Question} (h : Asks (answer q) told (.plain r)) :
    told = [] ∧ r = q := by
  have of_call : ∀ {β : Type} {p : Client.Call β}, ¬ Asks (call p) told (.plain r) := by
    intro β p h
    obtain ⟨_, _, -, h, -⟩ := asks_call h
    cases h
  cases q with
  | createCluster _ => exact absurd h of_call
  | clusterDetail _ => exact absurd h of_call
  | clusterNamed _ => exact absurd h of_call
  | deleteCluster _ => exact absurd h of_call
  | connectionRole _ => exact absurd h of_call
  | personalTeam => exact absurd h of_call
  | loginState => cases (asks_query.mp h).2
  | load _ => obtain ⟨rfl, h⟩ := asks_query.mp h; cases h; exact ⟨rfl, rfl⟩
  | replaceMetadata _ => obtain ⟨rfl, h⟩ := asks_query.mp h; cases h; exact ⟨rfl, rfl⟩
  | replaceStatus _ => obtain ⟨rfl, h⟩ := asks_query.mp h; cases h; exact ⟨rfl, rfl⟩
  | now => obtain ⟨rfl, h⟩ := asks_query.mp h; cases h; exact ⟨rfl, rfl⟩
  | note _ => obtain ⟨rfl, h⟩ := asks_query.mp h; cases h; exact ⟨rfl, rfl⟩

theorem asks_plain {q : Reconcile.Question} (h : Asks (reconcile s event) told (.plain q)) :
    ∃ heard, Asks (Reconcile.reconcile s event) heard q ∧ Spells answer heard told := by
  obtain ⟨heard, t, u, r, hp, ht, hu, rfl⟩ := asks_interpret.mp h
  obtain ⟨rfl, rfl⟩ := asks_answer_plain hu
  exact ⟨heard, hp, by simpa using ht⟩

def dealing : Exchange Answer → Option Dealing
  | ⟨.plain q, a⟩ => Reconcile.dealing ⟨q, a⟩
  | ⟨.client _, _⟩ => none

theorem dealing_of_spells {heard : List (Exchange Reconcile.Answer)} (h : Spells answer heard told)
    {y : Exchange Reconcile.Answer} (hy : y ∈ heard) {d : Dealing}
    (hd : Reconcile.dealing y = some d) : ∃ z ∈ told, dealing z = some d := by
  obtain ⟨part, hp, hi⟩ := h.mem hy
  have plain : part = [⟨.plain y.question, y.answer⟩] := by
    obtain ⟨q, a⟩ := y
    cases q <;> first | exact ends_query.mp hp | cases hd
  exact ⟨⟨.plain y.question, y.answer⟩, hi.subset (by simp [plain]), hd⟩

theorem dealing_of_part {y : Exchange Reconcile.Answer} {part : List (Exchange Answer)}
    (hp : Ends (answer y.question) part y.answer) {z : Exchange Answer} (hz : z ∈ part)
    {d : Dealing} (hd : dealing z = some d) : Reconcile.dealing y = some d := by
  have of_call : ∀ {β : Type} {p : Client.Call β} {b}, Ends (call p) part b → False := by
    intro β p b h
    obtain ⟨heard, -, rfl⟩ := ends_call.mp h
    obtain ⟨x, -, rfl⟩ := List.mem_map.mp hz
    cases hd
  have of_plain : part = [⟨.plain y.question, y.answer⟩] → Reconcile.dealing y = some d := by
    rintro rfl
    obtain rfl := List.mem_singleton.mp hz
    exact hd
  obtain ⟨q, b⟩ := y
  cases q with
  | createCluster _ => exact (of_call hp).elim
  | clusterDetail _ => exact (of_call hp).elim
  | clusterNamed _ => exact (of_call hp).elim
  | deleteCluster _ => exact (of_call hp).elim
  | connectionRole _ => exact (of_call hp).elim
  | personalTeam => exact (of_call hp).elim
  | loginState =>
    obtain rfl := ends_query.mp hp
    obtain rfl := List.mem_singleton.mp hz
    cases hd
  | load _ => exact of_plain (ends_query.mp hp)
  | replaceMetadata _ => exact of_plain (ends_query.mp hp)
  | replaceStatus _ => exact of_plain (ends_query.mp hp)
  | now => exact of_plain (ends_query.mp hp)
  | note _ => exact of_plain (ends_query.mp hp)

theorem question_of_dealing {x : Exchange Answer} {part : Part} {sent : Cluster}
    {r : Except Store.Error Cluster} (h : dealing x = some (.replace part sent r)) :
    x.question = .plain (writing part sent) := by
  obtain ⟨q | q, a⟩ := x
  · exact congrArg Question.plain (Reconcile.question_of_dealing h)
  · cases h

/-! ## Side by side -/

def PassOver (key : ObjectKey) (p : Program Answer (Except Error Action)) : Prop :=
  ∃ s event, event.key = key ∧ p = reconcile s event

theorem PassOver.inquires {key : ObjectKey} {p : Program Answer (Except Error Action)}
    (hp : PassOver key p) {x : Exchange Answer} {part : Part} {sent : Cluster}
    {r : Except Store.Error Cluster} (ha : p.Asks told x.question)
    (hx : dealing x = some (.replace part sent r)) :
    ∃ s key c t, Spells answer (⟨.load key, .ok c⟩ :: t) told ∧
      Inquires s c t (writing part sent) := by
  obtain ⟨s, event, -, rfl⟩ := hp
  rw [question_of_dealing hx] at ha
  obtain ⟨heard, h, hs⟩ := asks_plain ha
  refine ⟨s, ?_⟩
  rcases inquires_of_asks h with ⟨_, -, h⟩ | (h | ⟨_, h⟩) | ⟨key, c, t, rfl, hi⟩
  · cases part <;> cases h
  · cases part <;> cases h
  · cases part <;> cases h
  · exact ⟨key, c, t, hs, hi⟩

theorem steered_surroundings {τ : Type} {key : ObjectKey} {edits : Cluster → Cluster → Prop}
    {tells : τ → Exchange Answer → τ → Prop} :
    Steered (Store.surroundings (PassOver key) dealing edits tells) dealing Prod.fst edits where
  toKeeps := Store.keeps_surroundings
  inquires hp ha hx := by
    obtain ⟨s, key, c, t, ht, hi⟩ := hp.inquires ha hx
    exact ⟨s, c, t, hi, dealing_of_spells ht List.mem_cons_self rfl,
      fun y hy d hd => dealing_of_spells ht (List.mem_cons_of_mem _ hy) hd⟩

theorem fits_of_asks {τ : Type} {key : ObjectKey} {edits : Cluster → Cluster → Prop}
    {tells : τ → Exchange Answer → τ → Prop} {c : Cluster} {a : τ}
    {w : Scene Answer (Except Error Action) (Store.Record × τ)}
    (h : (Store.surroundings (PassOver key) dealing edits tells).Runs (.start (.start c, a)) w)
    {e : Errand Answer (Except Error Action)} (he : e ∈ w.errands) {x : Exchange Answer}
    (ha : e.program.Asks e.told x.question) {part : Part} {sent : Cluster}
    {r : Except Store.Error Cluster} (hx : dealing x = some (.replace part sent r)) :
    ∃ s key c t, Spells answer (⟨.load key, .ok c⟩ :: t) e.told ∧
      Inquires s c t (writing part sent) ∧ Fits w.state.1.versions c t := by
  obtain ⟨s, key, c₁, t, ht, hi⟩ := (h.genuine e he).1.inquires ha hx
  refine ⟨s, key, c₁, t, ht, hi, ?_⟩
  refine fits_of_told Store.keeps_surroundings (Store.Record.sound_start c) h he ?_ ?_
  · exact dealing_of_spells ht List.mem_cons_self rfl
  · exact fun y hy d hd => dealing_of_spells ht (List.mem_cons_of_mem _ hy) hd

end ClusterOperator.Reconcile.Connected
