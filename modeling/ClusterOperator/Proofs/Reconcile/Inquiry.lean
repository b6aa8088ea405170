import ClusterOperator.Proofs.Reconcile.Passage

/-!
# Why a pass asks

A pass begins with a load, and plans for what it loaded. `Inquires` lists all
that a plan asks, each question with the reason for it: what was found in the
loaded object, and what the pass was told since.
-/

namespace ClusterOperator.Reconcile

open Resource (Cluster ObjectKey Metadata)
open Provider (ClusterDetail ConnectionRole)
open Program

variable {s : Settings} {c c' sent : Cluster} {phase : Phase} {told : List (Exchange Answer)}
  {q : Question} {event : Metadata}

/-! ## Passes as a whole -/

theorem asks_body {key : ObjectKey} (h : Asks (body s key).run told q) :
    (told = [] ∧ q = .load key) ∨ ∃ c phase t, told = ⟨.load key, .ok c⟩ :: t ∧
      Phase.ofText? c.phaseText = some phase ∧
      Asks (runEffects s c (Plan.make (observe c phase)).effects).run t q := by
  rcases asks_ask_bind.mp h with h₁ | ⟨r, t, rfl, h₁⟩
  · exact .inl h₁
  right
  match r, h₁ with
  | .error (.notFound _), h₁ => exact absurd h₁ asks_done
  | .error (.conflict _), h₁ => exact absurd h₁ asks_done
  | .error (.kubernetes _), h₁ => exact absurd h₁ asks_done
  | .ok c, h₁ =>
    refine ⟨c, ?_⟩
    cases hp : Phase.ofText? c.phaseText with
    | none => simp only [hp] at h₁; exact absurd h₁ asks_done
    | some phase =>
      simp only [hp] at h₁
      exact ⟨phase, t, rfl, rfl, asks_pass_return h₁⟩

theorem asks_settle {key : ObjectKey} {r : Except Error Action}
    (h : Asks (settle key r) told q) : ∃ n, q = .note n := by
  unfold settle at h
  split at h
  · rcases asks_bind.mp h with h₁ | ⟨_, t, u, ht, h₁, rfl⟩
    · exact ⟨_, (asks_query.mp h₁).2⟩
    · exact absurd h₁ asks_done
  · split at h
    · exact absurd h asks_done
    · rcases asks_bind.mp h with h₁ | ⟨_, t, u, ht, h₁, rfl⟩
      · exact ⟨_, (asks_query.mp h₁).2⟩
      · exact absurd h₁ asks_done

theorem ends_settle_ok {key : ObjectKey} {a : Action} {r : Except Error Action}
    (h : Ends (settle key (.ok a)) told r) : told = [⟨.note (.succeeded key), ()⟩] ∧ r = .ok a := by
  obtain ⟨_, t, u, h₁, h₂, rfl⟩ := ends_bind.mp h
  obtain rfl := ends_query.mp h₁
  obtain ⟨rfl, rfl⟩ := ends_done.mp h₂
  exact ⟨rfl, rfl⟩

theorem ends_settle_error {key : ObjectKey} {e : Error} {r : Except Error Action}
    (h : Ends (settle key (.error e)) told r) :
    (e.isConflict ∧ told = [] ∧ r = .ok (.requeue conflictDelay)) ∨
      (e.isConflict = false ∧ told = [⟨.note (.failed key e.kind), ()⟩] ∧ r = .error e) := by
  simp only [settle] at h
  split at h
  next he =>
    obtain ⟨rfl, rfl⟩ := ends_done.mp h
    exact .inl ⟨he, rfl, rfl⟩
  next he =>
    obtain ⟨_, t, u, h₁, h₂, rfl⟩ := ends_bind.mp h
    obtain rfl := ends_query.mp h₁
    obtain ⟨rfl, rfl⟩ := ends_done.mp h₂
    exact .inr ⟨Bool.eq_false_iff.mpr he, rfl, rfl⟩

theorem asks_reconcile (h : Asks (reconcile s event) told q) :
    (∃ key, Asks (body s key).run told q) ∨ q = .loginState ∨ ∃ n, q = .note n := by
  unfold reconcile at h
  split at h
  · exact absurd h asks_done
  · rcases asks_bind.mp h with h₁ | ⟨r, t, u, -, h₁, rfl⟩
    · exact .inl ⟨_, h₁⟩
    · right
      rcases asks_bind.mp h₁ with h₂ | ⟨_, t, u, -, h₂, rfl⟩
      · exact .inl (asks_query.mp h₂).2
      · rcases asks_bind.mp h₂ with h₃ | ⟨_, t, u, -, h₃, rfl⟩
        · exact .inr ⟨_, (asks_query.mp h₃).2⟩
        · exact .inr (asks_settle h₃)

/-! ## Plans -/

/-- Only the unknown phase has a second text. -/
theorem text_of_ofText? {text : String} (h : Phase.ofText? text = some phase)
    (hp : phase ≠ .unknown) : text = phase.text := by
  unfold Phase.ofText? at h
  split at h
  · exact absurd (Option.some.inj h).symm hp
  · have hs := List.find?_some h
    exact (of_decide_eq_true hs).symm

theorem clusterId_ne {id : String} (h : c.clusterId = some id) : id.isEmpty = false := by
  simpa using (Option.filter_eq_some_iff.mp h).2

inductive Planned (c : Cluster) : Phase → List Effect → Prop
  | nothing {phase : Phase} : Planned c phase []
  | deletion {phase : Phase} : c.metadata.isDeleting → c.metadata.hasFinalizer finalizer →
    Planned c phase (.markDeleting :: (c.clusterId.toList.map .deleteCluster ++ [.removeFinalizer]))
  | setup : c.metadata.isDeleting = false → c.metadata.hasFinalizer finalizer →
    Planned c .unknown [.setPhase .pending]
  | guardedSetup : c.metadata.isDeleting = false → c.metadata.hasFinalizer finalizer = false →
    Planned c .unknown [.addFinalizer, .setPhase .pending]
  | creation : c.metadata.isDeleting = false →
    Planned c .pending [.createCluster, .setPhase .creating]
  | observation : c.metadata.isDeleting = false → Planned c .creating [.observeCluster]

theorem effects_of_deletion (hd : c.metadata.isDeleting) (hf : c.metadata.hasFinalizer finalizer) :
    (Plan.make (observe c phase)).effects =
      .markDeleting :: (c.clusterId.toList.map .deleteCluster ++ [.removeFinalizer]) := by
  simp only [Plan.make, observe, hd, hf, if_true]
  -- a recorded id is not empty, so its deletion is planned
  cases hc : c.clusterId with
  | none => rfl
  | some id => simp [Plan.forDeletion, clusterId_ne hc]

theorem planned (c : Cluster) (phase : Phase) :
    Planned c phase (Plan.make (observe c phase)).effects := by
  cases hd : c.metadata.isDeleting with
  | true =>
    cases hf : c.metadata.hasFinalizer finalizer with
    | true =>
      rw [effects_of_deletion hd hf]
      exact .deletion hd hf
    | false =>
      simp only [Plan.make, observe, hd, hf, if_true]
      exact .nothing
  | false =>
    simp only [Plan.make, observe, hd]
    cases phase with
    | unknown =>
      cases hf : c.metadata.hasFinalizer finalizer with
      | true => exact .setup hd hf
      | false => exact .guardedSetup hd hf
    | pending => exact .creation hd
    | creating => exact .observation hd
    | ready => exact .nothing
    | deleting => exact .nothing

/-! ## Reasons -/

/-- What marking an object as deleting leaves, and what was told of it. -/
inductive Marked (c : Cluster) : Cluster → List (Exchange Answer) → Prop
  | already : Marked c c []
  | failed {now : Timestamp} {e : Store.Error} :
    Marked c c [⟨.now, now⟩, ⟨.replaceStatus (entered c .deleting now), .error e⟩]
  | done {c' : Cluster} {now : Timestamp} {n : Note} :
    Marked c c' [⟨.now, now⟩, ⟨.replaceStatus (entered c .deleting now), .ok c'⟩, ⟨.note n, ()⟩]

theorem marked_of_ends (h : Ends (runEffect s c .markDeleting).run told (.ok c')) :
    Marked c c' told := by
  rcases ends_markDeleting h with ⟨rfl, rfl | ⟨now, d, rfl⟩⟩ | ⟨now, rfl⟩
  · exact .already
  · exact .failed
  · exact .done

inductive Cleared : Option String → List (Exchange Answer) → Prop
  | none : Cleared .none []
  | some {id : String} {a : Except Provider.Error Unit} : tookDelete a →
    Cleared (.some id) [⟨.deleteCluster id, a⟩]

inductive Inquires (s : Settings) (c : Cluster) : List (Exchange Answer) → Question → Prop
  | mark {phase : Phase} {t : List (Exchange Answer)} {q : Question} : c.metadata.isDeleting →
    Phase.ofText? c.phaseText = some phase → c.phaseText ≠ Phase.deleting.text →
    Enters c .deleting t q → Inquires s c t q
  | clear {c' : Cluster} {t : List (Exchange Answer)} {id : String} : c.metadata.isDeleting →
    Marked c c' t → c.clusterId = some id → Inquires s c t (.deleteCluster id)
  | release {c' : Cluster} {t u : List (Exchange Answer)} : c.metadata.isDeleting →
    Marked c c' t → Cleared c.clusterId u → Inquires s c (t ++ u) (.replaceMetadata (released c'))
  | guard : c.metadata.isDeleting = false → Phase.ofText? c.phaseText = some .unknown →
    Inquires s c [] (.replaceMetadata (guarded c))
  | guardedSetup {c' : Cluster} {t : List (Exchange Answer)} {q : Question} :
    c.metadata.isDeleting = false → Phase.ofText? c.phaseText = some .unknown →
    Enters c' .pending t q → Inquires s c (⟨.replaceMetadata (guarded c), .ok c'⟩ :: t) q
  | setup {t : List (Exchange Answer)} {q : Question} : c.metadata.isDeleting = false →
    c.metadata.hasFinalizer finalizer → Phase.ofText? c.phaseText = some .unknown →
    Enters c .pending t q → Inquires s c t q
  | team : c.metadata.isDeleting = false → Phase.ofText? c.phaseText = some .pending →
    (c.spec.team? <|> s.team) = none → Inquires s c [] .personalTeam
  | create {team : String} {t : List (Exchange Answer)} : c.metadata.isDeleting = false →
    Phase.ofText? c.phaseText = some .pending → Ends (resolveTeam s c).run t (.ok team) →
    Inquires s c t (.createCluster (c.spec.createRequest team))
  | created {team : String} {t u : List (Exchange Answer)} {a : Except Provider.Error Unit}
      {q : Question} : c.metadata.isDeleting = false →
    Phase.ofText? c.phaseText = some .pending → Ends (resolveTeam s c).run t (.ok team) →
    tookCreate a → Enters c .creating u q →
    Inquires s c (t ++ ⟨.createCluster (c.spec.createRequest team), a⟩ :: u) q
  | byId {id : String} : c.metadata.isDeleting = false →
    Phase.ofText? c.phaseText = some .creating → c.clusterId = some id →
    Inquires s c [] (.clusterDetail id)
  | byName : c.metadata.isDeleting = false →
    Phase.ofText? c.phaseText = some .creating → c.clusterId = none →
    Inquires s c [] (.clusterNamed c.spec.name)
  | observed {d : ClusterDetail} {t u : List (Exchange Answer)} {q : Question} :
    c.metadata.isDeleting = false → Phase.ofText? c.phaseText = some .creating →
    Ends (lookUp c).run t (.ok d) → d.isEmpty = false → Takes c d u q → Inquires s c (t ++ u) q

/-! ### Plan by plan -/

theorem inquires_deletion (hd : c.metadata.isDeleting) (hp : Phase.ofText? c.phaseText = some phase)
    (h : Asks (runEffects s c (.markDeleting ::
      (c.clusterId.toList.map .deleteCluster ++ [.removeFinalizer]))).run told q) :
    Inquires s c told q := by
  rcases asks_runEffects_cons.mp h with h₁ | ⟨c', t, u, ht, h₁, rfl⟩
  · obtain ⟨hn, h₂⟩ := asks_markDeleting h₁
    exact .mark hd hp hn (asks_writePhase h₂)
  have hm := marked_of_ends ht
  cases hc : c.clusterId with
  | none =>
    rw [hc] at h₁
    obtain ⟨rfl, rfl⟩ := asks_query.mp (asks_fromStore.mp (asks_runEffects_last h₁))
    exact .release hd hm (hc ▸ .none)
  | some id =>
    rw [hc] at h₁
    rcases asks_runEffects_cons.mp h₁ with h₂ | ⟨_, v, u, hv, h₂, rfl⟩
    · obtain ⟨rfl, rfl⟩ := asks_deleteCluster (asks_pass_return h₂)
      rw [List.append_nil]
      exact .clear hd hm hc
    · obtain ⟨_, h₃, rfl⟩ := ends_pass_return hv
      obtain ⟨a, rfl, ha⟩ := ends_deleteCluster h₃
      obtain ⟨rfl, rfl⟩ := asks_query.mp (asks_fromStore.mp (asks_runEffects_last h₂))
      exact .release hd hm (hc ▸ .some ha)

theorem inquires_guardedSetup (hd : c.metadata.isDeleting = false)
    (hp : Phase.ofText? c.phaseText = some .unknown)
    (h : Asks (runEffects s c [.addFinalizer, .setPhase .pending]).run told q) :
    Inquires s c told q := by
  rcases asks_runEffects_cons.mp h with h₁ | ⟨c', t, u, ht, h₁, rfl⟩
  · obtain ⟨rfl, rfl⟩ := asks_query.mp (asks_fromStore.mp h₁)
    exact .guard hd hp
  · obtain rfl := ends_query.mp (ends_fromStore.mp ht)
    exact .guardedSetup hd hp (asks_writePhase (asks_runEffects_last h₁))

theorem inquires_creation (hd : c.metadata.isDeleting = false)
    (hp : Phase.ofText? c.phaseText = some .pending)
    (h : Asks (runEffects s c [.createCluster, .setPhase .creating]).run told q) :
    Inquires s c told q := by
  rcases asks_runEffects_cons.mp h with h₁ | ⟨c', t, u, ht, h₁, rfl⟩
  · rcases asks_createCluster (asks_pass_return h₁) with h₂ | ⟨team, h₂, rfl⟩
    · obtain ⟨rfl, rfl, hn⟩ := asks_resolveTeam h₂
      exact .team hd hp hn
    · exact .create hd hp h₂
  · obtain ⟨_, h₂, rfl⟩ := ends_pass_return ht
    obtain ⟨team, t, a, h₃, ha, rfl⟩ := ends_createCluster h₂
    rw [List.append_assoc]
    exact .created hd hp h₃ ha (asks_writePhase (asks_runEffects_last h₁))

theorem inquires_observation (hd : c.metadata.isDeleting = false)
    (hp : Phase.ofText? c.phaseText = some .creating)
    (h : Asks (runEffects s c [.observeCluster]).run told q) : Inquires s c told q := by
  rcases asks_observeCluster (asks_runEffects_last h) with h₁ | ⟨d, t, u, ht, hn, rfl, h₁⟩
  · obtain ⟨rfl, ⟨id, hc, rfl⟩ | ⟨hc, rfl⟩⟩ := asks_lookUp h₁
    · exact .byId hd hp hc
    · exact .byName hd hp hc
  · exact .observed hd hp ht hn h₁

theorem inquires_body {key : ObjectKey} (h : Asks (body s key).run told q) :
    (told = [] ∧ q = .load key) ∨ ∃ c t, told = ⟨.load key, .ok c⟩ :: t ∧ Inquires s c t q := by
  rcases asks_body h with h₂ | ⟨c, phase, t, rfl, hp, h₂⟩
  · exact .inl h₂
  · refine .inr ⟨c, t, rfl, ?_⟩
    have he := planned c phase
    generalize (Plan.make (observe c phase)).effects = es at he h₂
    cases he with
    | nothing => exact absurd h₂ asks_return
    | deletion hd _ => exact inquires_deletion hd hp h₂
    | setup hd hf => exact .setup hd hf hp (asks_writePhase (asks_runEffects_last h₂))
    | guardedSetup hd _ => exact inquires_guardedSetup hd hp h₂
    | creation hd => exact inquires_creation hd hp h₂
    | observation hd => exact inquires_observation hd hp h₂

/-- A question of a pass is the load, one of bookkeeping, or has a reason. -/
theorem inquires_of_asks (h : Asks (reconcile s event) told q) :
    (∃ key, told = [] ∧ q = .load key) ∨ (q = .loginState ∨ ∃ n, q = .note n) ∨
      ∃ key c t, told = ⟨.load key, .ok c⟩ :: t ∧ Inquires s c t q := by
  rcases asks_reconcile h with ⟨key, h₁⟩ | h₁
  · rcases inquires_body h₁ with h₂ | h₂
    · exact .inl ⟨key, h₂⟩
    · exact .inr (.inr ⟨key, h₂⟩)
  · exact .inr (.inl h₁)

/-! ## The reasons of one question -/

theorem not_inquires_load {key : ObjectKey} : ¬ Inquires s c told (.load key) := by
  intro h
  cases h with
  | mark _ _ _ he => cases he
  | guardedSetup _ _ he => cases he
  | setup _ _ _ he => cases he
  | created _ _ _ _ he => cases he
  | observed _ _ _ _ ht => cases ht

theorem not_inquires_loginState : ¬ Inquires s c told .loginState := by
  intro h
  cases h with
  | mark _ _ _ he => cases he
  | guardedSetup _ _ he => cases he
  | setup _ _ _ he => cases he
  | created _ _ _ _ he => cases he
  | observed _ _ _ _ ht => cases ht

theorem inquires_createCluster {r : Provider.CreateRequest} (h : Inquires s c told (.createCluster r)) :
    ∃ team, Ends (resolveTeam s c).run told (.ok team) ∧ r = c.spec.createRequest team := by
  cases h with
  | create _ _ ht => exact ⟨_, ht, rfl⟩
  | mark _ _ _ he => cases he
  | guardedSetup _ _ he => cases he
  | setup _ _ _ he => cases he
  | created _ _ _ _ he => cases he
  | observed _ _ _ _ ht => cases ht

theorem inquires_replaceMetadata (h : Inquires s c told (.replaceMetadata sent)) :
    (told = [] ∧ c.metadata.isDeleting = false ∧ sent = guarded c) ∨ ∃ c' t u, told = t ++ u ∧
      c.metadata.isDeleting ∧ Marked c c' t ∧ Cleared c.clusterId u ∧ sent = released c' := by
  cases h with
  | guard hd _ => exact .inl ⟨rfl, hd, rfl⟩
  | release hd hm hc => exact .inr ⟨_, _, _, rfl, hd, hm, hc, rfl⟩
  | mark _ _ _ he => cases he
  | guardedSetup _ _ he => cases he
  | setup _ _ _ he => cases he
  | created _ _ _ _ he => cases he
  | observed _ _ _ _ ht => cases ht

/-- A status is sent as `creating` because it was, or after a create was taken. -/
theorem creation_of_inquires (h : Inquires s c told (.replaceStatus sent))
    (hs : sent.phaseText = Phase.creating.text) :
    (c.phaseText = Phase.creating.text ∧ sent.metadata = c.metadata) ∨
      ∃ team t a u, told = t ++ ⟨.createCluster (c.spec.createRequest team), a⟩ :: u ∧
        Ends (resolveTeam s c).run t (.ok team) ∧ tookCreate a ∧
        Enters c .creating u (.replaceStatus sent) := by
  have enters : ∀ {b p t}, Enters b p t (.replaceStatus sent) → p.text = Phase.creating.text := by
    intro b p t h
    cases h
    exact hs
  cases h with
  | mark _ _ _ he => exact absurd (enters he) (by decide)
  | guardedSetup _ _ he => exact absurd (enters he) (by decide)
  | setup _ _ _ he => exact absurd (enters he) (by decide)
  | created _ _ ht ha he => exact .inr ⟨_, _, _, _, rfl, ht, ha, he⟩
  | observed _ _ _ _ ht =>
    cases ht
    rw [observed_phaseText, promoted_eq] at hs
    split at hs
    · exact absurd hs (by decide)
    · exact .inl ⟨hs, rfl⟩

end ClusterOperator.Reconcile
