import ClusterOperator.Proofs.Reconcile.Account

/-!
# What comes of a pass

Marking an object as deleting is the one effect that passes over a failure, and a write
comes after it. So a pass that succeeds was not last told by the store that it lost a race,
and one that fails with a lost race was.
-/

namespace ClusterOperator.Reconcile

open Resource (Cluster ObjectKey Metadata)
open Provider (LoginState)
open Program

variable {s : Settings} {c c' : Cluster} {phase : Phase} {t u : List (Exchange Answer)}
  {key : ObjectKey} {event : Metadata} {α β : Type} {q : Question}

/-! ## The store's last word -/

def storeAnswer : Exchange Answer → Option (Except Store.Error Cluster)
  | ⟨.load _, r⟩ => some r
  | ⟨.replaceMetadata _, r⟩ => some r
  | ⟨.replaceStatus _, r⟩ => some r
  | _ => none

def lastWord (told : List (Exchange Answer)) : Option (Except Store.Error Cluster) :=
  (told.filterMap storeAnswer).getLast?

def lostRace (told : List (Exchange Answer)) : Bool :=
  match lastWord told with
  | some (.error (.conflict _)) => true
  | _ => false

theorem lastWord_append (t u : List (Exchange Answer)) :
    lastWord (t ++ u) = (lastWord u).or (lastWord t) := by
  rw [lastWord, List.filterMap_append, List.getLast?_append, ← lastWord, ← lastWord]

theorem lastWord_cons {x : Exchange Answer} :
    lastWord (x :: t) = (lastWord t).or (storeAnswer x) := by
  rw [← List.singleton_append, lastWord_append]
  congr 1
  rw [lastWord, List.filterMap_cons]
  cases storeAnswer x <;> rfl

theorem lastWord_append_of_some {r : Except Store.Error Cluster} (hu : lastWord u = some r) :
    lastWord (t ++ u) = some r := by
  rw [lastWord_append, hu, Option.some_or]

theorem storeAnswer_aside {x : Exchange Answer} (h : Aside x.question) : storeAnswer x = none := by
  obtain ⟨q, a⟩ := x
  cases q <;> first | rfl | exact absurd h id

theorem lastWord_asides (h : ∀ x ∈ t, Aside x.question) : lastWord t = none := by
  have : t.filterMap storeAnswer = [] :=
    List.filterMap_eq_nil_iff.mpr fun x hx => storeAnswer_aside (h x hx)
  rw [lastWord, this, List.getLast?_nil]

/-! ## Passes that heed the store -/

/-- What the store last said is good if the pass goes on, and what it fails with otherwise. -/
inductive Heeds (t : List (Exchange Answer)) : Except Error α → Prop
  | well {a : α} : (∀ e, lastWord t ≠ some (.error e)) → Heeds t (.ok a)
  | store {e : Store.Error} : lastWord t = some (.error e) → Heeds t (.error (.store e))
  | provider {e : Provider.Error} : Heeds t (.error (.provider e))

def Heedful (x : Pass α) : Prop := ∀ t r, Ends x.run t r → Heeds t r

theorem Heeds.retype {e : Error} (h : Heeds t (.error e : Except Error α)) :
    Heeds t (.error e : Except Error β) := by
  cases h with
  | store h => exact .store h
  | provider => exact .provider

theorem Heeds.after {e : Error} (h : Heeds u (.error e : Except Error α)) :
    Heeds (t ++ u) (.error e : Except Error α) := by
  cases h with
  | store h => exact .store (lastWord_append_of_some h)
  | provider => exact .provider

theorem heedful_return {a : α} : Heedful (pure a : Pass α) := by
  intro t r h
  obtain ⟨rfl, rfl⟩ := ends_return.mp h
  exact .well nofun

theorem Heedful.bind {x : Pass α} {f : α → Pass β} (hx : Heedful x) (hf : ∀ a, Heedful (f a)) :
    Heedful (x >>= f) := by
  intro t r h
  rcases ends_try_bind.mp h with ⟨e, h₁, rfl⟩ | ⟨a, u, v, h₁, h₂, rfl⟩
  · exact (hx _ _ h₁).retype
  have hu := hx _ _ h₁
  have hv := hf a _ _ h₂
  cases r with
  | error e => exact hv.after
  | ok b =>
    cases hu with
    | well hu =>
      cases hv with
      | well hv =>
        refine .well fun e he => ?_
        rw [lastWord_append] at he
        cases hl : lastWord v with
        | none => rw [hl] at he; exact hu e he
        | some r => rw [hl] at he; exact hv e (hl.trans he)

theorem heedful_ask_bind {f : Answer q → Pass β} (hq : ∀ a, storeAnswer ⟨q, a⟩ = none)
    (hf : ∀ a, Heedful (f a)) : Heedful (ask q >>= f) := by
  intro t r h
  obtain ⟨a, t, rfl, h₁⟩ := ends_ask_bind.mp h
  have hl : lastWord (⟨q, a⟩ :: t) = lastWord t := by rw [lastWord_cons, hq, Option.or_none]
  cases hf a _ _ h₁ with
  | well h₂ => exact .well fun e he => h₂ e (hl.symm.trans he)
  | store h₂ => exact .store (hl.trans h₂)
  | provider => exact .provider

theorem heedful_fromStore {p : Program Answer (Except Store.Error Cluster)}
    (hp : ∀ t r, Ends p t r → lastWord t = some r) : Heedful (fromStore p) := by
  intro t r h
  cases r with
  | ok a =>
    have ht := hp _ _ (ends_fromStore.mp h)
    refine .well fun e he => ?_
    cases ht.symm.trans he
  | error e =>
    obtain ⟨d, h₁, rfl⟩ := ends_fromStore_error.mp h
    exact .store (hp _ _ h₁)

/-- The provider's failures are passed on, and it is not the store that speaks. -/
theorem heedful_quiet {x : Pass α} (hx : Only Aside x.run)
    (he : ∀ t e, Ends x.run t (.error e) → ∃ d, e = .provider d) : Heedful x := by
  intro t r h
  cases r with
  | ok a =>
    have ht := lastWord_asides fun y hy => hx.hears h.hears hy
    refine .well fun e he => ?_
    cases ht.symm.trans he
  | error e =>
    obtain ⟨d, rfl⟩ := he _ _ h
    exact .provider

/-! ## Effects -/

theorem heedful_lookUp : Heedful (lookUp c) := by
  refine heedful_quiet only_lookUp fun t e h => ?_
  obtain ⟨d, rfl, -⟩ := ends_lookUp_error h
  exact ⟨d, rfl⟩

theorem heedful_deleteCluster {id : String} : Heedful (deleteCluster id) := by
  refine heedful_quiet only_deleteCluster fun t e h => ?_
  obtain ⟨_, d, -, -, rfl⟩ := ends_deleteCluster_error h
  exact ⟨d, rfl⟩

theorem heedful_createCluster : Heedful (createCluster s c) := by
  refine heedful_quiet only_createCluster fun t e h => ?_
  obtain ⟨d, rfl, -⟩ := ends_createCluster_error h
  exact ⟨d, rfl⟩

theorem heedful_replaceMetadata : Heedful (fromStore (.query (Question.replaceMetadata c))) := by
  refine heedful_fromStore fun t r h => ?_
  obtain rfl := ends_query.mp h
  rfl

theorem heedful_replaceStatus : Heedful (fromStore (.query (Question.replaceStatus c))) := by
  refine heedful_fromStore fun t r h => ?_
  obtain rfl := ends_query.mp h
  rfl

theorem heedful_writePhase : Heedful (writePhase c phase) :=
  heedful_ask_bind (fun _ => rfl) fun _ => heedful_replaceStatus.bind fun _ =>
    heedful_ask_bind (fun _ => rfl) fun _ => heedful_return

theorem heedful_takeOver {d : Provider.ClusterDetail} : Heedful (takeOver c d) := by
  refine heedful_ask_bind (fun _ => rfl) fun role => heedful_ask_bind (fun _ => rfl) fun now =>
    heedful_replaceStatus.bind fun kept => ?_
  split
  · exact heedful_ask_bind (fun _ => rfl) fun _ => heedful_return
  · exact heedful_return

theorem heedful_observe : Heedful (observeCluster c) := by
  rw [observeCluster_eq]
  refine heedful_lookUp.bind fun d => ?_
  split
  · exact heedful_return
  · exact heedful_takeOver

theorem heedful_runEffect {e : Effect} (he : e ≠ .markDeleting) : Heedful (runEffect s c e) := by
  cases e with
  | markDeleting => exact absurd rfl he
  | addFinalizer => exact heedful_replaceMetadata
  | removeFinalizer => exact heedful_replaceMetadata
  | setPhase phase => exact heedful_writePhase
  | createCluster => exact heedful_createCluster.bind fun _ => heedful_return
  | observeCluster => exact heedful_observe
  | deleteCluster id => exact heedful_deleteCluster.bind fun _ => heedful_return

theorem heedful_runEffects {es : List Effect} (hes : Effect.markDeleting ∉ es) :
    Heedful (runEffects s c es) := by
  induction es generalizing c with
  | nil => exact heedful_return
  | cons e es ih =>
    obtain ⟨he, hes⟩ := not_or.mp (mt List.mem_cons.mpr hes)
    exact (heedful_runEffect (Ne.symm he)).bind fun _ => ih hes

/-! ## Plans -/

theorem not_ends_markDeleting_error {e : Error} :
    ¬ Ends (runEffect s c .markDeleting).run t (.error e) := by
  intro h
  simp only [runEffect] at h
  split at h
  · cases (ends_return.mp h).2
  · rcases ends_tryCatch.mp h with ⟨a, -, h₁⟩ | ⟨d, u, v, -, h₁, rfl⟩
    · cases h₁
    · cases (ends_return.mp h₁).2

/-- A release that goes through ends with a write that was accepted. -/
theorem lastWord_release {ids : List String}
    (h : Ends (runEffects s c (ids.map .deleteCluster ++ [.removeFinalizer])).run t (.ok c')) :
    ∃ kept, lastWord t = some (.ok kept) := by
  induction ids generalizing c t with
  | nil =>
    rcases ends_try_bind.mp h with ⟨e, -, h₁⟩ | ⟨kept, u, v, h₁, h₂, rfl⟩
    · cases h₁
    obtain rfl := ends_query.mp (ends_fromStore.mp h₁)
    obtain ⟨rfl, -⟩ := ends_return.mp h₂
    exact ⟨kept, rfl⟩
  | cons id ids ih =>
    rcases ends_try_bind.mp h with ⟨e, -, h₁⟩ | ⟨c₁, u, v, -, h₂, rfl⟩
    · cases h₁
    obtain ⟨kept, hk⟩ := ih h₂
    exact ⟨kept, lastWord_append_of_some hk⟩

theorem heeds_deletion {ids : List String} {r : Except Error Cluster}
    (h : Ends (runEffects s c (.markDeleting :: (ids.map .deleteCluster ++
      [.removeFinalizer]))).run t r) : Heeds t r := by
  rcases ends_try_bind.mp h with ⟨e, h₁, -⟩ | ⟨c₁, u, v, -, h₂, rfl⟩
  · exact absurd h₁ not_ends_markDeleting_error
  cases r with
  | error e => exact (heedful_runEffects (by simp) _ _ h₂ : Heeds v _).after
  | ok c' =>
    obtain ⟨kept, hk⟩ := lastWord_release h₂
    refine .well fun e he => ?_
    cases (lastWord_append_of_some hk).symm.trans he

theorem heeds_plan {r : Except Error Cluster}
    (h : Ends (runEffects s c (Plan.make (observe c phase)).effects).run t r) : Heeds t r := by
  have he := planned c phase
  generalize (Plan.make (observe c phase)).effects = es at he h
  cases he with
  | deletion _ _ => exact heeds_deletion h
  | nothing => exact heedful_runEffects (by simp) _ _ h
  | setup _ _ => exact heedful_runEffects (by simp) _ _ h
  | guardedSetup _ _ => exact heedful_runEffects (by simp) _ _ h
  | creation _ => exact heedful_runEffects (by simp) _ _ h
  | observation _ => exact heedful_runEffects (by simp) _ _ h

/-! ## Whole passes -/

inductive Comes (s : Settings) (key : ObjectKey) :
    List (Exchange Answer) → Except Error Action → Prop
  | gone {m : String} : Comes s key [⟨.load key, .error (.notFound m)⟩] (.ok .awaitChange)
  | unread {e : Store.Error} : Comes s key [⟨.load key, .error e⟩] (.error (.store e))
  | unrecognized {c : Cluster} :
    Comes s key [⟨.load key, .ok c⟩] (.error (.unrecognizedPhase c.phaseText))
  | planned {c : Cluster} {phase : Phase} {t : List (Exchange Answer)} {r : Except Error Cluster}
      {a : Action} : Phase.ofText? c.phaseText = some phase →
    Ends (runEffects s c (Plan.make (observe c phase)).effects).run t r →
    Comes s key (⟨.load key, .ok c⟩ :: t) (r.map fun _ => a)

theorem ends_body {r : Except Error Action} (h : Ends (body s key).run t r) : Comes s key t r := by
  obtain ⟨a, t, rfl, h₁⟩ := ends_ask_bind.mp h
  match a, h₁ with
  | .error (.notFound m), h₁ =>
    obtain ⟨rfl, rfl⟩ := ends_done.mp h₁
    exact .gone
  | .error (.conflict m), h₁ =>
    obtain ⟨rfl, rfl⟩ := ends_done.mp h₁
    exact .unread
  | .error (.kubernetes f), h₁ =>
    obtain ⟨rfl, rfl⟩ := ends_done.mp h₁
    exact .unread
  | .ok c, h₁ =>
    cases hp : Phase.ofText? c.phaseText with
    | none =>
      simp only [hp] at h₁
      obtain ⟨rfl, rfl⟩ := ends_done.mp h₁
      exact .unrecognized
    | some phase =>
      simp only [hp] at h₁
      rcases ends_try_bind.mp h₁ with ⟨e, h₂, rfl⟩ | ⟨c', u, v, h₂, h₃, rfl⟩
      · exact .planned (a := .awaitChange) hp h₂
      · obtain ⟨rfl, rfl⟩ := ends_return.mp h₃
        rw [List.append_nil]
        exact .planned hp h₂

/-- What a pass is told of an object: nothing, or all that it asks for the one it loads. -/
inductive Booked (key : ObjectKey) : List (Exchange Answer) → Prop
  | unread {e : Store.Error} : Booked key [⟨.load key, .error e⟩]
  | loaded {c c' : Cluster} {t : List (Exchange Answer)} : Accounts c t c' →
    Booked key (⟨.load key, .ok c⟩ :: t)

theorem Comes.booked {r : Except Error Action} (h : Comes s key t r) : Booked key t := by
  cases h with
  | gone => exact .unread
  | unread => exact .unread
  | unrecognized => exact .loaded .done
  | planned hp h₁ =>
    obtain ⟨c', hc, -⟩ := accounted_plan hp h₁
    exact .loaded hc

theorem Comes.lostRace_ok {a : Action} (h : Comes s key t (.ok a)) : lostRace t = false := by
  generalize hr : (.ok a : Except Error Action) = r at h
  cases h with
  | gone => rfl
  | unread => cases hr
  | unrecognized => cases hr
  | @planned c phase t r a' hp h₁ =>
    have ht := heeds_plan h₁
    cases r with
    | error e => cases hr
    | ok c' =>
      cases ht with
      | well ht =>
        rw [lostRace, lastWord_cons]
        match hl : lastWord t, ht with
        | none, _ => rfl
        | some (.ok k), _ => rfl
        | some (.error e), ht => exact absurd rfl (ht e)

theorem Comes.lostRace_conflict {e : Error} (h : Comes s key t (.error e)) (he : e.isConflict) :
    lostRace t := by
  generalize hr : (.error e : Except Error Action) = r at h
  cases h with
  | gone => cases hr
  | @unread d =>
    cases hr
    match d, he with
    | .conflict m, _ => rfl
  | unrecognized =>
    cases hr
    cases he
  | @planned c phase t r a' hp h₁ =>
    have ht := heeds_plan h₁
    cases ht with
    | well ht => cases hr
    | provider =>
      cases hr
      cases he
    | @store d ht =>
      cases hr
      match d, he with
      | .conflict m, _ => rw [lostRace, lastWord_cons, ht]; rfl

/-! ## Bookkeeping -/

/-- What a pass notes at its end of what it was told before, and what comes of it. -/
inductive Settles (key : ObjectKey) (t : List (Exchange Answer)) :
    List (Exchange Answer) → Except Error Action → Prop
  | succeeded {a : Action} : lostRace t = false →
    Settles key t [⟨.note (.succeeded key), ()⟩] (.ok a)
  | raced {a : Action} : lostRace t → Settles key t [] (.ok a)
  | failed {e : Error} : e.isConflict = false →
    Settles key t [⟨.note (.failed key e.kind), ()⟩] (.error e)

theorem Comes.settles {r r' : Except Error Action} (hr : Comes s key t r)
    (h : Ends (settle key r) u r') : Settles key t u r' := by
  cases r with
  | ok a =>
    obtain ⟨rfl, rfl⟩ := ends_settle_ok h
    exact .succeeded hr.lostRace_ok
  | error e =>
    rcases ends_settle_error h with ⟨he, rfl, rfl⟩ | ⟨he, rfl, rfl⟩
    · exact .raced (hr.lostRace_conflict he)
    · exact .failed he

theorem Settles.not_conflict {e : Error} (h : Settles key t u (.error e)) :
    e.isConflict = false := by
  cases h with
  | failed he => exact he

theorem Settles.lostRace {r : Except Error Action} (h : Settles key t u r) (login : LoginState)
    (n : Note) : lostRace (t ++ ⟨.loginState, login⟩ :: ⟨.note n, ()⟩ :: u) = lostRace t := by
  have hu : lastWord (⟨.loginState, login⟩ :: ⟨.note n, ()⟩ :: u) = none := by
    cases h <;> rfl
  rw [Reconcile.lostRace, lastWord_append, hu, Option.none_or, Reconcile.lostRace]

theorem Settles.login {r : Except Error Action} (h : Settles key t u r)
    (ht : ∀ x ∈ t, x.question ≠ .loginState) (login : LoginState) (n : Note) (state : LoginState) :
    ⟨.loginState, state⟩ ∈ t ++ ⟨.loginState, login⟩ :: ⟨.note n, ()⟩ :: u ↔ state = login := by
  constructor
  · intro hx
    rcases List.mem_append.mp hx with hx | hx
    · exact absurd rfl (ht _ hx)
    · rcases List.mem_cons.mp hx with hx | hx
      · cases hx
        rfl
      · -- only notes follow
        cases h <;> simp at hx
  · rintro rfl
    simp

theorem only_body : Only (· ≠ .loginState) (body s key).run := by
  rintro told q h rfl
  rcases inquires_body h with ⟨-, h₁⟩ | ⟨c, t, -, h₁⟩
  · cases h₁
  · exact not_inquires_loginState h₁

/-- What a pass does comes first, then it reads the state of the login, and then it settles. -/
theorem reconcile_parts {ns : String} (hn : event.ns = some ns) {r : Except Error Action}
    (h : Ends (reconcile s event) t r) :
    ∃ r₁ u login v, t = u ++ ⟨.loginState, login⟩ :: ⟨.note (.login login), ()⟩ :: v ∧
      Ends (body s event.key).run u r₁ ∧ Ends (settle event.key r₁) v r := by
  have hk : event.key = ⟨ns, event.anyName⟩ := by rw [Metadata.key, hn, Option.getD_some]
  unfold reconcile at h
  rw [hn] at h
  rw [hk]
  obtain ⟨r₁, u, v, h₁, h₂, rfl⟩ := ends_bind.mp h
  obtain ⟨login, v, w, h₃, h₄, rfl⟩ := ends_bind.mp h₂
  obtain rfl := ends_query.mp h₃
  obtain ⟨_, v, x, h₅, h₆, rfl⟩ := ends_bind.mp h₄
  obtain rfl := ends_query.mp h₅
  exact ⟨r₁, u, login, x, rfl, h₁, h₆⟩

/-- A pass reads the state of the login once, after everything that it does. -/
theorem ends_reconcile {ns : String} (hn : event.ns = some ns) {r : Except Error Action}
    (h : Ends (reconcile s event) t r) :
    ∃ u login v, t = u ++ ⟨.loginState, login⟩ :: ⟨.note (.login login), ()⟩ :: v ∧
      (∀ x ∈ u, x.question ≠ .loginState) ∧ Booked event.key u ∧ Settles event.key u v r := by
  obtain ⟨r₁, u, login, v, rfl, h₁, h₂⟩ := reconcile_parts hn h
  have hc := ends_body h₁
  exact ⟨u, login, v, rfl, fun y hy => only_body.hears h₁.hears hy, hc.booked, hc.settles h₂⟩

end ClusterOperator.Reconcile
