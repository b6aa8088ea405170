import ClusterOperator.Proofs.Reconcile.Course
import ClusterOperator.Proofs.Reconcile.Removal

/-!
# What the parts of a status say of each other

A status is rewritten whole by every pass that writes it. What one write does
not speak of comes from the object that the pass goes by, and that is the one
that is stored, so the parts stay in step with each other.
-/

namespace ClusterOperator.Reconcile

open Resource (Cluster ObjectKey)
open Resource.Cluster (Status)
open Provider (ClusterDetail)

structure Coherent (status : Status) : Prop where
  ready : status.phase = Phase.ready.text → status.cluster.id ≠ ""
  recorded : status.cluster.id ≠ "" →
    status.phase = Phase.creating.text ∨ status.phase = Phase.ready.text ∨
      status.phase = Phase.deleting.text
  connected : status.connection ≠ .empty → status.cluster.id ≠ ""

theorem coherent_empty : Coherent .empty where
  ready h := absurd h (by decide)
  recorded h := absurd rfl h
  connected h := absurd rfl h

/-! ## One write -/

theorem unrecorded_of_unknown {c : Cluster} (h : Coherent (c.status.getD .empty))
    (hp : Phase.ofText? c.phaseText = some .unknown) : (c.status.getD .empty).cluster.id = "" := by
  by_contra hn
  have hr := h.recorded hn
  rw [phase_getD] at hr
  rcases hr with hr | hr | hr
  · rw [hr] at hp
    exact absurd hp (by decide)
  · rw [hr] at hp
    exact absurd hp (by decide)
  · rw [hr] at hp
    exact absurd hp (by decide)

theorem Coherent.enter {c : Cluster} {phase : Phase} (h : Coherent (c.status.getD .empty))
    (he : Entering c phase) (now : Timestamp) :
    Coherent ((c.status.getD .empty).enter phase now) where
  ready hp := by
    have hn : phase.text ≠ Phase.ready.text := by cases he <;> decide
    exact absurd hp hn
  recorded hid := by
    have hid : (c.status.getD .empty).cluster.id ≠ "" := hid
    cases he with
    | pending _ hp => exact absurd (unrecorded_of_unknown h hp) hid
    | creating _ _ => exact .inl rfl
    | deleting _ _ _ => exact .inr (.inr rfl)
  connected hn := h.connected hn

theorem coherent_observed {c : Cluster} {d : ClusterDetail} (hd : d.isEmpty = false)
    (hp : Phase.ofText? c.phaseText = some .creating)
    (role : Except Provider.Error Provider.ConnectionRole) (now : Timestamp) :
    Coherent ((observed c d role now).status.getD .empty) := by
  have hid : ((observed c d role now).status.getD .empty).cluster.id ≠ "" := by
    simpa [observed, Status.stamp, connected_cluster, Cluster.Summary.ofDetail,
      ClusterDetail.isEmpty] using hd
  refine ⟨fun _ => hid, fun _ => ?_, fun _ => hid⟩
  rw [phase_getD, observed_phaseText, promoted_eq]
  by_cases hr : d.isReady
  · rw [if_pos hr]
    exact .inr (.inl rfl)
  · rw [if_neg hr]
    exact .inl (text_of_ofText? hp (by decide))

theorem Rewrites.coherent {c stored sent : Cluster} {t : List (Exchange Answer)}
    (h : Rewrites c t stored sent) (ih : Coherent (stored.status.getD .empty)) :
    Coherent (sent.status.getD .empty) := by
  cases h with
  | entered he => exact ih.enter he _
  | observed _ hp _ hd _ => exact coherent_observed hd hp _ _

/-! ## Writes of a phase -/

/-- The pass over a loaded object is to set or to mark a phase. -/
def MovesPhase (c : Cluster) : Prop :=
  ∃ phase, Phase.ofText? c.phaseText = some phase ∧
    ∃ e ∈ (Plan.make (observe c phase)).effects, e = .markDeleting ∨ ∃ p, e = .setPhase p

/-- What was reported of the provider's cluster is the same. -/
def SameReport (older newer : Cluster) : Prop :=
  (newer.status.getD .empty).cluster = (older.status.getD .empty).cluster ∧
    (newer.status.getD .empty).connection = (older.status.getD .empty).connection

theorem not_movesPhase {c : Cluster} (hd : c.metadata.isDeleting = false)
    (hp : Phase.ofText? c.phaseText = some .creating) : ¬ MovesPhase c := by
  rintro ⟨phase, hp', e, he, hm⟩
  obtain rfl : .creating = phase := Option.some.inj (hp.symm.trans hp')
  have hplan := planned c .creating
  generalize (Plan.make (observe c .creating)).effects = es at he hplan
  cases hplan with
  | nothing => cases he
  | deletion hd' _ =>
    rw [hd] at hd'
    cases hd'
  | observation _ =>
    obtain rfl := List.mem_singleton.mp he
    rcases hm with hm | ⟨p, hm⟩ <;> cases hm

theorem Rewrites.sameReport {c stored sent : Cluster} {t : List (Exchange Answer)}
    (h : Rewrites c t stored sent) (hm : MovesPhase c) : SameReport stored sent := by
  cases h with
  | entered _ => exact ⟨rfl, rfl⟩
  | observed hd hp _ _ _ => exact absurd hm (not_movesPhase hd hp)

/-! ## Whole runs -/

def KeepsId (older newer : Cluster) : Prop :=
  ∀ id, older.clusterId = some id → newer.clusterId = some id

instance : Trans (fun newer older => KeepsId older newer) (fun newer older => KeepsId older newer)
    (fun newer older => KeepsId older newer) := ⟨fun h h' id hid => h id (h' id hid)⟩

/-- Asked for a cluster by its id, the provider fails, or answers with this
cluster or with none. -/
def Truthful : Exchange Answer → Prop
  | ⟨.clusterDetail id, .ok d⟩ => d.isEmpty ∨ d.id = id
  | _ => True

def truthfulPasses (key : ObjectKey) (edits : Cluster → Cluster → Prop) :
    Environment Answer (Except Error Action) (Store.Record × Unit) :=
  Store.surroundings (PassOver key) dealing edits fun _ x _ => Truthful x

section
variable {key : ObjectKey} {edits : Cluster → Cluster → Prop} {c : Cluster}
  {w : Scene Answer (Except Error Action) (Store.Record × Unit)}

theorem truthful_of_runs (h : (truthfulPasses key edits).Runs (.start (.start c, ())) w) :
    ∀ e ∈ w.errands, ∀ x ∈ e.told, Truthful x := by
  refine Environment.Runs.told ?_ h
  intro s x s' hx
  exact hx.2

theorem coherent_throughout (hc : c.status = none)
    (h : (truthfulPasses key edits).Runs (.start (.start c, ())) w) :
    ∀ v ∈ w.state.1.versions, Coherent (v.status.getD .empty) := by
  have hE : Steered (truthfulPasses key edits) dealing Prod.fst edits := steered_surroundings
  refine hE.throughout (P := fun v => Coherent (v.status.getD .empty)) ?_ ?_ rfl ?_ h
  · intro r s c₁ stored sent t part v hr ih hi hf hc hv
    have hm := hr.current_mem hc
    cases part with
    | main => exact ih stored hm
    | status => exact (hf.rewrites hr hi hm hv).coherent (ih stored hm)
  · intro stored kept ih _ hst _
    rw [hst]
    exact ih
  · rw [hc]
    exact coherent_empty

theorem clusterId_kept (h : (truthfulPasses key edits).Runs (.start (.start c, ())) w) :
    w.state.1.versions.IsChain fun newer older => KeepsId older newer := by
  have hE : Store.Keeps (truthfulPasses key edits) dealing Prod.fst edits :=
    Store.keeps_surroundings
  refine hE.chain (R := fun newer older => KeepsId older newer) rfl ?_ h
  intro w w' stored kept hw _ hc hn hk id hid
  rcases hk with ⟨i, x, ht⟩ | hk
  · obtain ⟨e, he, k, loaded, t, htold, hk | ⟨sent, hr, hk⟩⟩ := rewrites_of_turn hw ht hc hn
    · exact (clusterId_of_status hk).trans hid
    · rcases hr.clusterId hid with hs | ⟨d, hm, hd, hne⟩
      · exact (clusterId_of_status hk).trans hs
      · -- the lookup by the recorded id was answered with another cluster
        have hx := truthful_of_runs hw e (List.mem_of_getElem? he) _
          (htold ▸ List.mem_cons_of_mem _ hm)
        rcases hx with hx | hx
        · rw [hd] at hx
          cases hx
        · exact absurd hx hne
  · exact (clusterId_of_status hk).trans hid

/-- The parts of each status agree, an id that was recorded is never changed,
and writes of a phase leave all else that was reported. -/
theorem status_coherent (hc : c.status = none)
    (h : (truthfulPasses key edits).Runs (.start (.start c, ())) w) :
    (∀ v, w.state.1.current = some v ∨ v ∈ w.state.1.versions →
      ∀ status, v.status = some status → Coherent status) ∧
    (w.state.1.versions.Pairwise fun newer older => KeepsId older newer) ∧
    ∀ i x w' stored kept, (truthfulPasses key edits).Turn w i x w' →
      w.state.1.current = some stored → w'.state.1.versions = kept :: w.state.1.versions →
      ∀ e k loaded t, w.errands[i]? = some e → e.told = ⟨.load k, .ok loaded⟩ :: t →
        MovesPhase loaded → SameReport stored kept := by
  have hE : Store.Keeps (truthfulPasses key edits) dealing Prod.fst edits :=
    Store.keeps_surroundings
  have hr := hE.sound (Store.Record.sound_start c) h
  refine ⟨?_, (clusterId_kept h).pairwise, ?_⟩
  · intro v hv status hs
    have hm : v ∈ w.state.1.versions := hv.elim hr.current_mem id
    have hco := coherent_throughout hc h v hm
    rw [hs] at hco
    exact hco
  · intro i x w' stored kept ht hc hn e k loaded t he htold hm
    obtain ⟨e', he', k', loaded', t', htold', hk⟩ := rewrites_of_turn h ht hc hn
    obtain rfl : e = e' := Option.some.inj (he.symm.trans he')
    rw [htold] at htold'
    cases htold'
    rcases hk with hk | ⟨sent, hw, hk⟩
    · rw [SameReport, hk]
      exact ⟨rfl, rfl⟩
    · rw [SameReport, hk]
      exact hw.sameReport hm

end

namespace Sample

def toldMark : List (Exchange Answer) := [⟨.load key, .ok late⟩, ⟨.now, now⟩]

def atMark : Scene Answer (Except Error Action) (Store.Record × Unit) :=
  ⟨(lateRecord, ()), [⟨pass, toldSetup⟩, ⟨pass, toldCreation⟩, ⟨pass, toldObservation⟩,
    ⟨pass, toldMark⟩]⟩

theorem mark_runs : (truthfulPasses key RequestsDeletion).Runs (.start (.start fresh, ())) atMark := by
  have h₁ : (truthfulPasses key RequestsDeletion).Runs (.start (.start fresh, ()))
      ⟨(⟨some pending, [pending, fresh]⟩, ()), [⟨pass, toldSetup⟩]⟩ := by
    refine Environment.Runs.performs .refl passOver (.later (.later (.later .start))) ?_
    refine .still (Store.deals_answers rfl (.read List.mem_cons_self) trivial) ?_
    refine .still (Store.apart_answers rfl trivial) ?_
    exact .last (Store.deals_answers rfl (.accepted ⟨fresh, "2", rfl, rfl, by decide, rfl⟩) trivial)
  have h₂ : (truthfulPasses key RequestsDeletion).Runs (.start (.start fresh, ()))
      ⟨(⟨some creating, [creating, pending, fresh]⟩, ()),
        [⟨pass, toldSetup⟩, ⟨pass, toldCreation⟩]⟩ := by
    refine h₁.performs passOver (.later (.later (.later (.later .start)))) ?_
    refine .still (Store.deals_answers rfl (.read List.mem_cons_self) trivial) ?_
    refine .still (Store.apart_answers rfl trivial) ?_
    refine .still (Store.apart_answers rfl trivial) ?_
    exact .last (Store.deals_answers rfl (.accepted ⟨pending, "3", rfl, rfl, by decide, rfl⟩) trivial)
  have h₃ : (truthfulPasses key RequestsDeletion).Runs (.start (.start fresh, ()))
      ⟨(⟨some recorded, [recorded, creating, pending, fresh]⟩, ()),
        [⟨pass, toldSetup⟩, ⟨pass, toldCreation⟩, ⟨pass, toldObservation⟩]⟩ := by
    refine h₂.performs passOver (.later (.later (.later (.later (.later .start))))) ?_
    refine .still (Store.deals_answers rfl (.read List.mem_cons_self) trivial) ?_
    refine .still (Store.apart_answers rfl trivial) ?_
    refine .still (Store.apart_answers rfl trivial) ?_
    refine .still (Store.apart_answers rfl trivial) ?_
    exact .last (Store.deals_answers rfl (.accepted ⟨creating, "4", rfl, rfl, by decide, rfl⟩) trivial)
  have hd : Store.Record.Drifts RequestsDeletion ⟨some recorded, [recorded, creating, pending, fresh]⟩
      lateRecord :=
    @Store.Record.Drifts.edited _ _ recorded late rfl ⟨now, "5", rfl⟩ rfl (fun _ => rfl) (by decide)
  have h₄ := h₃.drifts (s := (lateRecord, ())) ⟨hd, rfl⟩
  refine h₄.performs passOver (.later (.later .start)) ?_
  refine .still (Store.deals_answers rfl (.read List.mem_cons_self) trivial) ?_
  exact .last (Store.apart_answers rfl trivial)

end Sample

/-- A recorded cluster stays in the status when its object is marked. -/
theorem status_coherent_mark : ∃ w i x w' kept,
    (truthfulPasses Sample.key RequestsDeletion).Runs (.start (.start Sample.fresh, ())) w ∧
      (truthfulPasses Sample.key RequestsDeletion).Turn w i x w' ∧
      w.state.1.current = some Sample.late ∧ w'.state.1.versions = kept :: w.state.1.versions ∧
      KeepsId Sample.creating Sample.late ∧ Sample.late.clusterId = some "c1" ∧
      kept.phaseText = Phase.deleting.text ∧ SameReport Sample.late kept := by
  let kept := Sample.inPhase Sample.late .deleting "6"
  have ht : (truthfulPasses Sample.key RequestsDeletion).Turn Sample.atMark 3
      ⟨.replaceStatus (entered Sample.late .deleting Sample.now), .ok kept⟩
      ⟨(Sample.lateRecord.put .status kept, ()), _⟩ :=
    ⟨⟨Sample.pass, Sample.toldMark⟩, rfl, .later (.later .now),
      Store.deals_answers rfl (.accepted ⟨Sample.late, "6", rfl, rfl, by decide, rfl⟩) trivial, rfl⟩
  have hm : MovesPhase Sample.late :=
    ⟨.creating, by decide, .markDeleting, by decide, .inl rfl⟩
  obtain ⟨-, hid, hw⟩ := status_coherent rfl Sample.mark_runs
  have hk : KeepsId Sample.creating Sample.late :=
    List.rel_of_pairwise_cons hid (by simp)
  exact ⟨_, _, _, _, kept, Sample.mark_runs, ht, rfl, rfl, hk, by decide, rfl,
    hw _ _ _ _ _ ht rfl rfl _ _ _ _ rfl rfl hm⟩

end ClusterOperator.Reconcile
