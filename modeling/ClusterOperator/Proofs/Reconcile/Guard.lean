import ClusterOperator.Proofs.Reconcile.Course

/-!
# The guard comes before the cluster

Guard and phase are written apart, and either write can fail. Still a stored
object that is not to go has the guard from `pending` on, so what orders a
cluster was loaded with it.
-/

namespace ClusterOperator.Reconcile

open Resource (Cluster ObjectKey)
open Kubernetes (Part)
open Store (merge versionOf withVersion)

theorem text_ne_blank (phase : Phase) : "" ≠ phase.text := by
  cases phase <;> decide

def Guarded (c : Cluster) : Prop :=
  ∀ phase ∈ [Phase.pending, .creating, .ready], c.phaseText = phase.text →
    c.metadata.isDeleting = false → c.metadata.hasFinalizer finalizer

theorem guarded_of_write {r : Store.Record} (hr : r.Sound) (ih : ∀ b ∈ r.versions, Guarded b)
    {s : Settings} {c stored sent : Cluster} {t : List (Exchange Answer)} {part : Part}
    (hi : Inquires s c t (writing part sent)) (hf : Fits r.versions c t)
    (hs : stored ∈ r.versions) (hv : versionOf sent = versionOf stored) (v : String) :
    Guarded (withVersion (merge part stored sent) v) := by
  intro phase hp hphase hd
  cases part with
  | main =>
    rcases inquires_replaceMetadata hi with ⟨-, -, rfl⟩ | ⟨c', t, u, rfl, hdel, hm, -, rfl⟩
    · exact guarded_hasFinalizer c
    · -- the guard is taken away only from an object that is to go
      obtain ⟨-, -, hd'⟩ := hf.marked hr hm
      have hc' : c'.metadata.isDeleting = false := hd
      rw [hd', hdel] at hc'
      cases hc'
  | status =>
    cases hf.rewrites hr hi hs hv with
    | entered he =>
      cases he with
      | pending hg _ => exact hg
      | creating hn hpend => exact ih stored hs .pending (by simp) (text_of_ofText? hpend nofun) hn
      | deleting hdel _ _ =>
        have hn : stored.metadata.isDeleting = false := hd
        rw [hdel] at hn
        cases hn
    | observed hn hcre _ _ _ => exact ih c hs .creating (by simp) (text_of_ofText? hcre nofun) hn

/-! ## Orders -/

/-- What a pass asks in order to get a cluster. -/
def Orders : Question → Prop
  | .createCluster _ => True
  | .personalTeam => True
  | _ => False

theorem not_orders_enters {c : Cluster} {phase : Phase} {t : List (Exchange Answer)} {q : Question}
    (h : Enters c phase t q) : ¬ Orders q := by
  cases h <;> exact id

theorem pending_of_orders {s : Settings} {c : Cluster} {t : List (Exchange Answer)} {q : Question}
    (h : Inquires s c t q) (hq : Orders q) :
    c.metadata.isDeleting = false ∧ c.phaseText = Phase.pending.text := by
  cases h with
  | team hd hp _ => exact ⟨hd, text_of_ofText? hp nofun⟩
  | create hd hp _ => exact ⟨hd, text_of_ofText? hp nofun⟩
  | mark _ _ _ he => exact absurd hq (not_orders_enters he)
  | guardedSetup _ _ he => exact absurd hq (not_orders_enters he)
  | setup _ _ _ he => exact absurd hq (not_orders_enters he)
  | created _ _ _ _ he => exact absurd hq (not_orders_enters he)
  | observed _ _ _ _ ht => cases ht <;> exact hq.elim
  | clear _ _ _ => exact hq.elim
  | release _ _ _ => exact hq.elim
  | guard _ _ => exact hq.elim
  | byId _ _ _ => exact hq.elim
  | byName _ _ _ => exact hq.elim

theorem loaded_of_orders {key : ObjectKey} {p : Program Answer (Except Error Action)}
    (hp : PassOver key p) {told : List (Exchange Answer)} {q : Question} (ha : p.Asks told q)
    (hq : Orders q) : ∃ k c t, told = ⟨.load k, .ok c⟩ :: t ∧ c.metadata.isDeleting = false ∧
      c.phaseText = Phase.pending.text := by
  obtain ⟨s, event, -, rfl⟩ := hp
  rcases inquires_of_asks ha with ⟨_, -, rfl⟩ | (rfl | ⟨_, rfl⟩) | ⟨k, c, t, ht, hi⟩
  · exact hq.elim
  · exact hq.elim
  · exact hq.elim
  · exact ⟨k, c, t, ht, pending_of_orders hi hq⟩

/-! ## Whole runs -/

/-- Every version that is stored has the guard while its cluster may exist, and
only a pass that loaded the object with its guard, and not to go, orders one. -/
theorem guarded_throughout {key : ObjectKey} {edits : Cluster → Cluster → Prop} {c : Cluster}
    {w : Scene Answer (Except Error Action) (Store.Record × Unit)} (hc : c.status = none)
    (hk : ∀ {old new}, edits old new → old.metadata.hasFinalizer finalizer →
      new.metadata.hasFinalizer finalizer)
    (h : (passes key edits).Runs (.start (.start c, ())) w) :
    (∀ stored, w.state.1.current = some stored → Guarded stored) ∧
      (∀ v ∈ w.state.1.versions, Guarded v) ∧
      ∀ e ∈ w.errands, ∀ q, Orders q → e.Poses q → ∃ k loaded t,
        e.told = ⟨.load k, .ok loaded⟩ :: t ∧ loaded.metadata.hasFinalizer finalizer ∧
          loaded.metadata.isDeleting = false := by
  have hE : Steered (passes key edits) dealing Prod.fst edits := steered_surroundings
  have hr := hE.sound (Store.Record.sound_start c) h
  have hall : ∀ v ∈ w.state.1.versions, Guarded v := by
    refine hE.throughout (P := Guarded) ?_ ?_ rfl ?_ h
    · intro r s c₁ stored sent t part v hr ih hi hf hc hv
      exact guarded_of_write hr ih hi hf (hr.current_mem hc) hv v
    · intro stored kept ih he hst hdel phase hp hphase hd
      have hphase' : stored.phaseText = phase.text := by
        rw [← hphase, Cluster.phaseText, Cluster.phaseText, hst]
      have hd' : stored.metadata.isDeleting = false := by
        cases hs : stored.metadata.isDeleting with
        | false => rfl
        | true => exact (hdel hs).symm.trans hd
      exact hk he (ih phase hp hphase' hd')
    · intro phase hp hphase
      have hblank : c.phaseText = "" := by simp [Cluster.phaseText, hc]
      rw [hblank] at hphase
      exact absurd hphase (text_ne_blank phase)
  refine ⟨fun stored hs => hall stored (hr.current_mem hs), hall, ?_⟩
  intro e he q hq hposes
  obtain ⟨t, u, ht, ha⟩ := (h.genuine e he).asks hposes
  obtain ⟨k, loaded, t, rfl, hd, hp⟩ := loaded_of_orders (h.genuine e he).1 ha hq
  have hm : loaded ∈ w.state.1.versions :=
    hE.fitsIn (Store.Record.sound_start c) h he (x := ⟨.load k, .ok loaded⟩) (by simp [ht]) rfl
  exact ⟨k, loaded, t ++ u, ht, hall loaded hm .pending (by simp) hp hd, hd⟩

def KeepsGuard (old new : Cluster) : Prop :=
  old.metadata.hasFinalizer finalizer → new.metadata.hasFinalizer finalizer

namespace Sample

def kept : Cluster := withVersion fresh "2"

def prepared : Cluster := inPhase kept .pending "3"

def toldRefused : List (Exchange Answer) :=
  [⟨.load key, .ok cluster⟩, ⟨.replaceMetadata fresh, .ok kept⟩, ⟨.now, now⟩,
    ⟨.replaceStatus (entered kept .pending now), .error (.conflict "")⟩]

def toldPrepared : List (Exchange Answer) :=
  [⟨.load key, .ok kept⟩, ⟨.now, now⟩,
    ⟨.replaceStatus (entered kept .pending now), .ok prepared⟩]

def ordering : Errand Answer (Except Error Action) := ⟨pass, [⟨.load key, .ok prepared⟩]⟩

/-- The guard is written, but not the phase, so the second pass goes on from
there, and the third orders the cluster. -/
theorem ordering_runs : (passes key KeepsGuard).Runs (.start (.start cluster, ()))
    ⟨(⟨some prepared, [prepared, kept, cluster]⟩, ()),
      [⟨pass, toldRefused⟩, ⟨pass, toldPrepared⟩, ordering]⟩ := by
  have h₁ : (passes key KeepsGuard).Runs (.start (.start cluster, ()))
      ⟨(⟨some kept, [kept, cluster]⟩, ()), [⟨pass, toldRefused⟩]⟩ := by
    have hk : (passes key KeepsGuard).answers (.start cluster, ())
        ⟨.replaceMetadata fresh, .ok kept⟩ (⟨some kept, [kept, cluster]⟩, ()) :=
      Store.deals_answers rfl (.accepted ⟨cluster, "2", rfl, rfl, by decide, rfl⟩) trivial
    refine Environment.Runs.performs .refl passOver (.later (.later (.later (.later .start)))) ?_
    refine .still (Store.deals_answers rfl (.read List.mem_cons_self) trivial) (.cons hk ?_)
    refine .still (Store.apart_answers rfl trivial) ?_
    exact .last (Store.deals_answers rfl .refused trivial)
  have h₂ : (passes key KeepsGuard).Runs (.start (.start cluster, ()))
      ⟨(⟨some prepared, [prepared, kept, cluster]⟩, ()),
        [⟨pass, toldRefused⟩, ⟨pass, toldPrepared⟩]⟩ := by
    refine h₁.performs passOver (.later (.later (.later .start))) ?_
    refine .still (Store.deals_answers rfl (.read List.mem_cons_self) trivial) ?_
    refine .still (Store.apart_answers rfl trivial) ?_
    exact .last (Store.deals_answers rfl (.accepted ⟨kept, "3", rfl, rfl, by decide, rfl⟩) trivial)
  refine h₂.performs passOver (.later .start) ?_
  exact .last (Store.deals_answers rfl (.read List.mem_cons_self) trivial)

end Sample

theorem guarded_throughout_ordering : ∃ w e r,
    (passes Sample.key KeepsGuard).Runs (.start (.start Sample.cluster, ())) w ∧
      e ∈ w.errands ∧ e.Poses (.createCluster r) ∧ (∀ v ∈ w.state.1.versions, Guarded v) ∧
      ∃ k loaded t, e.told = ⟨.load k, .ok loaded⟩ :: t ∧
        loaded.metadata.hasFinalizer finalizer ∧ loaded.metadata.isDeleting = false := by
  let r := Sample.prepared.spec.createRequest "t1"
  have hp : Sample.ordering.Poses (.createCluster r) := .inl (.later .now)
  obtain ⟨-, hg, hm⟩ := guarded_throughout rfl (fun h => h) Sample.ordering_runs
  exact ⟨_, Sample.ordering, r, Sample.ordering_runs, by simp, hp, hg,
    hm Sample.ordering (by simp) (.createCluster r) trivial hp⟩

end ClusterOperator.Reconcile
