import ClusterOperator.Proofs.Reconcile.Steering

/-!
# What a pass notes of its writes

After each status write that a pass was told was accepted it notes how the phase has changed,
and only then. It notes at its end what came of it, unless its last word from the store was
that it lost a race.
-/

namespace ClusterOperator.Reconcile

open Resource (Cluster ObjectKey Metadata)
open Provider (ClusterDetail LoginState)
open Program
open Store (versionOf)

variable {s : Settings} {c c' sent : Cluster} {phase : Phase} {t u : List (Exchange Answer)}
  {r : Except Error Cluster} {key : ObjectKey}

/-! ## Accounts -/

/-- Not to the store, for the metrics or about the login. -/
def Aside : Question → Prop
  | .load _ | .replaceMetadata _ | .replaceStatus _ | .loginState | .note _ => False
  | _ => True

/-- A pass that goes by `c` is told `t`, and goes by `c'` then. What follows an accepted write
is accounted for if the answer has the status that was to be stored. -/
inductive Accounts : Cluster → List (Exchange Answer) → Cluster → Prop
  | done {c : Cluster} : Accounts c [] c
  | aside {c c' : Cluster} {x : Exchange Answer} {t : List (Exchange Answer)} :
    Aside x.question → Accounts c t c' → Accounts c (x :: t) c'
  | unmerged {c c' sent : Cluster} {e : Store.Error} {t : List (Exchange Answer)} :
    Accounts c t c' → Accounts c (⟨.replaceMetadata sent, .error e⟩ :: t) c'
  | unwritten {c c' sent : Cluster} {e : Store.Error} {t : List (Exchange Answer)} :
    Accounts c t c' → Accounts c (⟨.replaceStatus sent, .error e⟩ :: t) c'
  | merged {c c' sent kept : Cluster} {t : List (Exchange Answer)} :
    versionOf sent = versionOf c → sent.metadata.key = c.metadata.key →
    (kept.status = c.status → Accounts kept t c') →
    Accounts c (⟨.replaceMetadata sent, .ok kept⟩ :: t) c'
  | moved {c c' sent kept : Cluster} {t : List (Exchange Answer)} :
    sent.metadata = c.metadata → Phase.shown c.phaseText ≠ Phase.shown sent.phaseText →
    (kept.status = sent.status → Accounts kept t c') →
    Accounts c (⟨.replaceStatus sent, .ok kept⟩ ::
      ⟨.note (.moved (Phase.shown c.phaseText) (Phase.shown sent.phaseText)), ()⟩ :: t) c'
  | stayed {c c' sent kept : Cluster} {t : List (Exchange Answer)} :
    sent.metadata = c.metadata → Phase.shown c.phaseText = Phase.shown sent.phaseText →
    (kept.status = sent.status → Accounts kept t c') →
    Accounts c (⟨.replaceStatus sent, .ok kept⟩ :: t) c'

theorem Accounts.append {c'' : Cluster} (h : Accounts c t c') (h' : Accounts c' u c'') :
    Accounts c (t ++ u) c'' := by
  induction h with
  | done => exact h'
  | aside hx _ ih => exact .aside hx (ih h')
  | unmerged _ ih => exact .unmerged (ih h')
  | unwritten _ ih => exact .unwritten (ih h')
  | merged hv hk _ ih => exact .merged hv hk fun hs => ih hs h'
  | moved hm hp _ ih => exact .moved hm hp fun hs => ih hs h'
  | stayed hm hp _ ih => exact .stayed hm hp fun hs => ih hs h'

theorem accounts_asides (h : ∀ x ∈ t, Aside x.question) : Accounts c t c := by
  induction t with
  | nil => exact .done
  | cons x t ih =>
    exact .aside (h x List.mem_cons_self) (ih fun y hy => h y (List.mem_cons_of_mem _ hy))

/-- What an effect was told is accounted for, and it answers the object to go on with. -/
def Accounted (c : Cluster) (t : List (Exchange Answer)) (r : Except Error Cluster) : Prop :=
  ∃ c', Accounts c t c' ∧ ∀ k, r = .ok k → k = c'

theorem Accounted.of_ok (h : Accounts c t c') : Accounted c t (.ok c') :=
  ⟨c', h, fun _ hk => (Except.ok.inj hk).symm⟩

theorem Accounted.of_error {e : Error} (h : Accounts c t c') : Accounted c t (.error e) :=
  ⟨c', h, fun _ hk => by cases hk⟩

theorem Accounted.merged {kept : Cluster} (hv : versionOf sent = versionOf c)
    (hk : sent.metadata.key = c.metadata.key)
    (h : kept.status = c.status → Accounted kept t r) :
    Accounted c (⟨.replaceMetadata sent, .ok kept⟩ :: t) r := by
  by_cases hs : kept.status = c.status
  · obtain ⟨c', hc, hr⟩ := h hs
    exact ⟨c', .merged hv hk fun _ => hc, hr⟩
  · cases r with
    | ok k => exact .of_ok (.merged hv hk fun h => absurd h hs)
    | error e => exact .of_error (.merged hv hk fun h => absurd h hs : Accounts c _ c)

/-! ## Effects -/

theorem only_lookUp : Only Aside (lookUp c).run := by
  intro told q h
  obtain ⟨-, ⟨_, -, rfl⟩ | ⟨-, rfl⟩⟩ := asks_lookUp h
  · trivial
  · trivial

theorem only_createCluster : Only Aside (createCluster s c).run := by
  intro told q h
  rcases asks_createCluster h with h | ⟨_, -, rfl⟩
  · obtain ⟨-, rfl, -⟩ := asks_resolveTeam h
    trivial
  · trivial

theorem only_deleteCluster {id : String} : Only Aside (deleteCluster id).run := by
  intro told q h
  obtain ⟨-, rfl⟩ := asks_deleteCluster h
  trivial

theorem accounted_quiet {p : Pass Unit} (hp : Only Aside p.run)
    (h : Ends (p >>= fun _ => (pure c : Pass Cluster)).run t r) : Accounted c t r := by
  rcases ends_try_bind.mp h with ⟨e, h₁, rfl⟩ | ⟨_, v, w, h₁, h₂, rfl⟩
  · exact .of_error (accounts_asides fun x hx => hp.hears h₁.hears hx)
  · obtain ⟨rfl, rfl⟩ := ends_return.mp h₂
    rw [List.append_nil]
    exact .of_ok (accounts_asides fun x hx => hp.hears h₁.hears hx)

theorem accounted_merge (hv : versionOf sent = versionOf c)
    (hk : sent.metadata.key = c.metadata.key)
    (h : Ends (fromStore (.query (Question.replaceMetadata sent))).run t r) : Accounted c t r := by
  cases r with
  | ok k =>
    obtain rfl := ends_query.mp (ends_fromStore.mp h)
    exact .of_ok (.merged hv hk fun _ => .done)
  | error e =>
    obtain ⟨d, h₁, rfl⟩ := ends_fromStore_error.mp h
    obtain rfl := ends_query.mp h₁
    exact .of_error (.unmerged .done)

theorem shown_text (phase : Phase) : Phase.shown phase.text = phase.text := by
  cases phase <;> decide

theorem accounted_writePhase (hp : Phase.shown c.phaseText ≠ phase.text)
    (h : Ends (writePhase c phase).run t r) : Accounted c t r := by
  cases r with
  | ok k =>
    obtain ⟨now, rfl⟩ := ends_writePhase h
    have hs : Phase.shown (entered c phase now).phaseText = phase.text := shown_text phase
    rw [← hs] at hp ⊢
    exact .of_ok (.aside trivial (.moved rfl hp fun _ => .done))
  | error e =>
    obtain ⟨now, d, rfl, -⟩ := ends_writePhase_error h
    exact .of_error (.aside trivial (.unwritten .done))

theorem accounted_markDeleting (h : Ends (runEffect s c .markDeleting).run t r) :
    Accounted c t r := by
  simp only [runEffect] at h
  split at h
  · obtain ⟨rfl, rfl⟩ := ends_return.mp h
    exact .of_ok .done
  next hn =>
    have hp : Phase.shown c.phaseText ≠ Phase.deleting.text := by
      unfold Phase.shown
      split
      · decide
      · exact hn
    rcases ends_tryCatch.mp h with ⟨a, h₁, rfl⟩ | ⟨e, v, w, h₁, h₂, rfl⟩
    · exact accounted_writePhase hp h₁
    · obtain ⟨rfl, rfl⟩ := ends_return.mp h₂
      obtain ⟨now, d, rfl, -⟩ := ends_writePhase_error h₁
      exact .of_ok (.aside trivial (.unwritten .done))

theorem promoted_cases (c : Cluster) (d : ClusterDetail) :
    (promoted c.phaseText d = c.phaseText) ∨
      (promoted c.phaseText d = Phase.ready.text ∧
        Phase.shown c.phaseText ≠ Phase.shown Phase.ready.text) := by
  by_cases hp : promoted c.phaseText d = c.phaseText
  · exact .inl hp
  · have hr : promoted c.phaseText d = Phase.ready.text := by
      by_cases hd : d.isReady
      · rw [promoted_eq, if_pos hd]
      · rw [promoted_eq, if_neg hd] at hp
        exact absurd rfl hp
    refine .inr ⟨hr, ?_⟩
    rw [hr] at hp
    rw [shown_text, Phase.shown]
    split
    · decide
    · exact Ne.symm hp

theorem accounted_takeOver {d : ClusterDetail} (h : Ends (takeOver c d).run t r) :
    Accounted c t r := by
  obtain ⟨role, t, rfl, h₁⟩ := ends_ask_bind.mp h
  obtain ⟨now, t, rfl, h₂⟩ := ends_ask_bind.mp h₁
  rcases ends_try_bind.mp h₂ with ⟨e, h₃, rfl⟩ | ⟨kept, u, t, h₃, h₄, rfl⟩
  · obtain ⟨e, h₄, rfl⟩ := ends_fromStore_error.mp h₃
    obtain rfl := ends_query.mp h₄
    exact .of_error (.aside trivial (.aside trivial (.unwritten .done)))
  obtain rfl := ends_query.mp (ends_fromStore.mp h₃)
  have hs := observed_phaseText c d role now
  split at h₄
  next hp =>
    rw [phase_getD] at hp h₄
    obtain ⟨_, t, rfl, h₅⟩ := ends_ask_bind.mp h₄
    obtain ⟨rfl, rfl⟩ := ends_return.mp h₅
    rcases promoted_cases c d with h₀ | ⟨hr, hn⟩
    · exact absurd h₀ hp
    rw [hr] at hs
    rw [← shown_text .ready, ← hs]
    rw [← hs] at hn
    exact .of_ok (.aside trivial (.aside trivial (.moved rfl hn fun _ => .done)))
  next hp =>
    rw [phase_getD] at hp
    obtain ⟨rfl, rfl⟩ := ends_return.mp h₄
    rw [not_not.mp hp] at hs
    exact .of_ok (.aside trivial (.aside trivial (.stayed rfl (by rw [hs]) fun _ => .done)))

theorem accounted_observe (h : Ends (observeCluster c).run t r) : Accounted c t r := by
  rw [observeCluster_eq] at h
  rcases ends_try_bind.mp h with ⟨e, h₁, rfl⟩ | ⟨d, u, v, h₁, h₂, rfl⟩
  · exact .of_error (accounts_asides fun x hx => only_lookUp.hears h₁.hears hx)
  have hu : Accounts c u c := accounts_asides fun x hx => only_lookUp.hears h₁.hears hx
  split at h₂
  · obtain ⟨rfl, rfl⟩ := ends_return.mp h₂
    rw [List.append_nil]
    exact .of_ok hu
  · obtain ⟨c', hc, hk⟩ := accounted_takeOver h₂
    exact ⟨c', hu.append hc, hk⟩

/-! ## Plans -/

theorem shown_of_ofText? {text : String} (h : Phase.ofText? text = some phase) :
    Phase.shown text = phase.text := by
  by_cases ht : text = ""
  · subst ht
    obtain rfl : Phase.unknown = phase := Option.some.inj h
    rfl
  · unfold Phase.ofText? at h
    rw [if_neg ht] at h
    have hs := List.find?_some h
    rw [← of_decide_eq_true hs, shown_text]

theorem accounted_effects {e : Effect} {es : List Effect}
    (h : Ends (runEffects s c (e :: es)).run t r)
    (he : ∀ {t r}, Ends (runEffect s c e).run t r → Accounted c t r)
    (hes : ∀ {u c' t r}, Ends (runEffect s c e).run u (.ok c') →
      Ends (runEffects s c' es).run t r → Accounted c' t r) : Accounted c t r := by
  rcases ends_try_bind.mp h with ⟨d, h₁, rfl⟩ | ⟨c', u, v, h₁, h₂, rfl⟩
  · exact he h₁
  · obtain ⟨c₁, hu, hc⟩ := he h₁
    obtain rfl := hc c' rfl
    obtain ⟨c₂, hv, hk⟩ := hes h₁ h₂
    exact ⟨c₂, hu.append hv, hk⟩

theorem accounted_none (h : Ends (runEffects s c []).run t r) : Accounted c t r := by
  obtain ⟨rfl, rfl⟩ := ends_return.mp h
  exact .of_ok .done

theorem accounted_last {e : Effect} (h : Ends (runEffects s c [e]).run t r)
    (he : ∀ {t r}, Ends (runEffect s c e).run t r → Accounted c t r) : Accounted c t r :=
  accounted_effects h he fun _ => accounted_none

theorem accounted_release {ids : List String}
    (h : Ends (runEffects s c (ids.map .deleteCluster ++ [.removeFinalizer])).run t r) :
    Accounted c t r := by
  induction ids generalizing c t r with
  | nil => exact accounted_last h (accounted_merge (by rfl : versionOf (released c) = _) rfl)
  | cons id ids ih =>
    exact accounted_effects h (accounted_quiet only_deleteCluster) fun _ => ih

theorem accounted_guardedSetup (hp : Phase.ofText? c.phaseText = some .unknown)
    (h : Ends (runEffects s c [.addFinalizer, .setPhase .pending]).run t r) :
    Accounted c t r := by
  rcases ends_try_bind.mp h with ⟨d, h₁, rfl⟩ | ⟨kept, u, v, h₁, h₂, rfl⟩
  · exact accounted_merge (by rfl : versionOf (guarded c) = _) rfl h₁
  obtain rfl := ends_query.mp (ends_fromStore.mp h₁)
  refine .merged rfl rfl fun hs => accounted_last h₂ (accounted_writePhase ?_)
  rw [Cluster.phaseText, hs, ← Cluster.phaseText, shown_of_ofText? hp]
  decide

theorem accounted_creation (hp : Phase.ofText? c.phaseText = some .pending)
    (h : Ends (runEffects s c [.createCluster, .setPhase .creating]).run t r) :
    Accounted c t r := by
  refine accounted_effects h (accounted_quiet only_createCluster) fun hu h₁ => ?_
  obtain ⟨_, -, rfl⟩ := ends_pass_return hu
  refine accounted_last h₁ (accounted_writePhase ?_)
  rw [shown_of_ofText? hp]
  decide

/-- Whatever a pass plans for an object, what it is told is accounted for. -/
theorem accounted_plan (hp : Phase.ofText? c.phaseText = some phase)
    (h : Ends (runEffects s c (Plan.make (observe c phase)).effects).run t r) :
    Accounted c t r := by
  have he := planned c phase
  generalize (Plan.make (observe c phase)).effects = es at he h
  cases he with
  | nothing => exact accounted_none h
  | deletion _ _ =>
    exact accounted_effects h accounted_markDeleting fun _ => accounted_release
  | setup _ _ =>
    refine accounted_last h (accounted_writePhase ?_)
    rw [shown_of_ofText? hp]
    decide
  | guardedSetup _ _ => exact accounted_guardedSetup hp h
  | creation _ => exact accounted_creation hp h
  | observation _ => exact accounted_last h accounted_observe

end ClusterOperator.Reconcile
