import ClusterOperator.Proofs.Provider.Generations

/-!
# The last look at the gate

A ping that gets through the gate looks at the state once more, a retry at the
generation of its timer. Nobody else changes either while it logs in, so a token is
asked for only by those that are still needed.
-/

namespace ClusterOperator.Provider

variable {S : Type}

namespace Stage

/-- A ping up to its last look. -/
def isPing : Stage S → Bool
  | .pinged | .waiting .ping | .entered .ping => true
  | _ => false

/-- A retry of a timer that had this generation, up to its last look. -/
def isRetry (generation : Nat) : Stage S → Bool
  | .fired .retry g => g = generation
  | .waiting (.retry g) => g = generation
  | .entered (.retry g) => g = generation
  | _ => false

variable {settings : SessionSettings} {now : Instant} {draw : Float} {gateFree : Bool}
  {s s' : Session S} {stage stage' : Stage S} {input : Input} {g : Nat}

theorem not_isAttempt_of_isPing (h : stage.isPing) : stage.isAttempt = false := by
  cases stage <;> first | rfl | cases h

theorem not_isAttempt_of_isRetry (h : stage.isRetry g) : stage.isAttempt = false := by
  cases stage <;> first | rfl | cases h

theorem armedBy_of_isRetry (h : stage.isRetry g) : stage.armedBy? = some (.retry, g) := by
  unfold isRetry at h
  split at h
  · rw [armedBy?, of_decide_eq_true h]
  · rw [armedBy?, of_decide_eq_true h]
  · rw [armedBy?, of_decide_eq_true h]
  · cases h

theorem Moves.isPing (h : Moves settings now draw gateFree s stage input s' stage')
    (hp : stage.isPing) : s' = s ∧
      (stage'.isPing ∨ (stage' = .admitted ∧ s.state.needsLogin) ∨ stage' = .finished) := by
  cases h with
  | wanted _ => exact ⟨rfl, .inl rfl⟩
  | unwanted _ => exact ⟨rfl, .inr (.inr rfl)⟩
  | @passed entry _ =>
    cases entry with
    | ping => exact ⟨rfl, .inl rfl⟩
    | login => cases hp
    | retry _ => cases hp
  | @admitted entry hw =>
    cases entry with
    | ping => exact ⟨rfl, .inr (.inl ⟨rfl, hw⟩)⟩
    | login => cases hp
    | retry _ => cases hp
  | superseded _ => exact ⟨rfl, .inr (.inr rfl)⟩
  | _ => cases hp

theorem Moves.isRetry (h : Moves settings now draw gateFree s stage input s' stage')
    (hp : stage.isRetry g) : s' = s ∧
      (stage'.isRetry g ∨ (stage' = .admitted ∧ s.retry.generation = g) ∨ stage' = .finished) := by
  cases h with
  | @detached kind _ _ =>
    cases kind with
    | retry => exact ⟨rfl, .inl hp⟩
    | renew => cases hp
    | expire => cases hp
  | outdated _ => exact ⟨rfl, .inr (.inr rfl)⟩
  | @passed entry _ =>
    cases entry with
    | ping => cases hp
    | login => cases hp
    | retry _ => exact ⟨rfl, .inl hp⟩
  | @admitted entry hw =>
    cases entry with
    | ping => cases hp
    | login => cases hp
    | retry _ => exact ⟨rfl, .inr (.inl ⟨rfl, (of_decide_eq_true hw).trans (of_decide_eq_true hp)⟩)⟩
  | superseded _ => exact ⟨rfl, .inr (.inr rfl)⟩
  | _ => cases hp

/-- An attempt leaves the session alone until it ends. -/
theorem Moves.isAttempt (h : Moves settings now draw gateFree s stage input s' stage')
    (ha : stage.isAttempt) : (stage'.isAttempt ∧ s' = s) ∨ stage' = .finished := by
  cases h with
  | begun => exact .inl ⟨rfl, rfl⟩
  | supplied _ => exact .inl ⟨rfl, rfl⟩
  | unconfigured _ => exact .inr rfl
  | unread => exact .inr rfl
  | issued => exact .inr rfl
  | refused => exact .inr rfl
  | failed => exact .inr rfl
  | _ => cases ha

end Stage

namespace Traffic

variable {settings : SessionSettings} {u w w' : Traffic S} {e : Event S} {past mid : List (Event S)}
  {i g : Nat}

/-! ## Beside an attempt -/

/-- What an attempt comes to is told by a step of its own. -/
theorem Step.mover_of_outcome (h : Step settings w e w') (ho : e.fails ∨ e.succeeds) :
    ∃ j stage, e.isMoveOf j ∧ w.tasks[j]? = some stage ∧ stage.isAttempt := by
  cases e with
  | moved j input now draw =>
    rcases ho with hf | hs
    · obtain ⟨stage, hj, ha⟩ := h.attempt_of_fails hf
      exact ⟨j, stage, ⟨input, now, draw, rfl⟩, hj, ha⟩
    · obtain ⟨stage, stage', hj, -, hm⟩ := h.moves
      generalize w'.session = s' at hm
      cases hm with
      | issued => exact ⟨j, _, ⟨_, now, draw, rfl⟩, hj, rfl⟩
      | _ => cases hs
  | _ => rcases ho with ho | ho <;> cases ho

/-- While a task is past the gate, no other attempt ends. -/
theorem Step.no_outcome (h : Step settings w e w') (hw : w.OneAtGate) {stage : Stage S}
    (hi : w.tasks[i]? = some stage) (hg : stage.holdsGate) (he : ¬ e.isMoveOf i) :
    e.fails = false ∧ e.succeeds = false := by
  have other : ¬ (e.fails ∨ e.succeeds) := by
    intro ho
    obtain ⟨j, stage', hj, hj', ha⟩ := h.mover_of_outcome ho
    obtain rfl := hw i j stage stage' hi hj' hg (Stage.holdsGate_of_isAttempt ha)
    exact he hj
  rw [not_or] at other
  exact ⟨Bool.eq_false_iff.mpr other.1, Bool.eq_false_iff.mpr other.2⟩

theorem Event.answer_eq_none (hf : e.fails = false) (hs : e.succeeds = false) : e.answer? = none := by
  cases ha : e.answer? with
  | none => rfl
  | some r =>
    cases r with
    | issued token =>
      rw [Event.succeeds_iff.mpr ⟨token, ha⟩] at hs
      cases hs
    | refused =>
      rw [Event.fails_of_answer ha nofun] at hf
      cases hf
    | failed =>
      rw [Event.fails_of_answer ha nofun] at hf
      cases hf

/-- Without an answer of the provider, only a login that is there can be lost. -/
theorem Step.state_kept (h : Step settings w e w') (ha : e.answer? = none)
    (hn : w.session.state ≠ .active) : w'.session.state = w.session.state := by
  have hr := h.relogin
  have state : w'.session.state = w'.session.login.state := rfl
  rw [state]
  rw [ha] at hr
  generalize w'.session.login = login at hr ⊢
  cases hr with
  | same => rfl
  | demoted hact => exact absurd hact hn
  | cleared _ => rfl

theorem Step.retry_kept (h : Step settings w e w') (hf : e.fails = false) (hs : e.succeeds = false)
    (hp : ∀ due, e ≠ .planned due) : w'.session.retry.generation = w.session.retry.generation := by
  have hr := h.replans
  generalize w'.session.retry = t at hr ⊢
  generalize w'.session.cursor = c at hr
  cases hr with
  | kept _ _ => rfl
  | planned => exact absurd rfl (hp _)
  | wentOff => rfl
  | failed hf' =>
    rw [hf'] at hf
    cases hf
  | succeeded hs' =>
    rw [hs'] at hs
    cases hs

/-! ## Pings -/

/-- A ping on its way: as long as it logs in, a login is needed. -/
inductive Pinging (i : Nat) (w : Traffic S) : Prop
  | before {stage : Stage S} : w.tasks[i]? = some stage → stage.isPing → Pinging i w
  | during {stage : Stage S} : w.tasks[i]? = some stage → stage.isAttempt →
    w.session.state.needsLogin → Pinging i w
  | done : w.tasks[i]? = some .finished → Pinging i w

theorem Step.pinging (h : Step settings w e w') (hw : w.OneAtGate) (hp : Pinging i w) :
    Pinging i w' := by
  by_cases he : e.isMoveOf i
  · obtain ⟨input, now, draw, rfl⟩ := he
    obtain ⟨stage, stage', hi, hi', hm⟩ := h.moves
    cases hp with
    | before hb hp =>
      obtain rfl := Option.some.inj (hb.symm.trans hi)
      obtain ⟨hs, hp' | ⟨rfl, hn⟩ | rfl⟩ := hm.isPing hp
      · exact .before hi' hp'
      · rw [← hs] at hn
        exact .during hi' rfl hn
      · exact .done hi'
    | during hd ha hn =>
      obtain rfl := Option.some.inj (hd.symm.trans hi)
      rcases hm.isAttempt ha with ⟨ha', hs⟩ | rfl
      · rw [← hs] at hn
        exact .during hi' ha' hn
      · exact .done hi'
    | done hf =>
      obtain rfl := Option.some.inj (hf.symm.trans hi)
      cases hm
  · cases hp with
    | before hb hp => exact .before (h.task_kept he hb) hp
    | during hd ha hn =>
      obtain ⟨hf, hs⟩ := h.no_outcome hw hd (Stage.holdsGate_of_isAttempt ha) he
      refine .during (h.task_kept he hd) ha ?_
      rw [h.state_kept (Event.answer_eq_none hf hs) fun hact => by rw [hact] at hn; cases hn]
      exact hn
    | done hf => exact .done (h.task_kept he hf)

/-! ## Retries -/

/-- A retry on its way: it logs in only if its timer is not armed again before it does. -/
inductive Retrying (u : Traffic S) (i g : Nat) (mid : List (Event S)) (w : Traffic S) : Prop
  | before {stage : Stage S} : w.tasks[i]? = some stage → stage.isRetry g → Retrying u i g mid w
  | during {stage : Stage S} : w.tasks[i]? = some stage → stage.isAttempt →
    u.session.retry.generation ≤ g →
    ((∀ due, .planned due ∉ mid) → w.session.retry.generation = g) → Retrying u i g mid w
  | done : w.tasks[i]? = some .finished → Retrying u i g mid w

theorem Step.retrying (hu : Runs settings u mid w) (h : Step settings w e w') (hw : w.OneAtGate)
    (hr : Retrying u i g mid w) : Retrying u i g (e :: mid) w' := by
  have before : (∀ due, .planned due ∉ e :: mid) → ∀ due, .planned due ∉ mid :=
    fun hp due hm => hp due (List.mem_cons_of_mem _ hm)
  by_cases he : e.isMoveOf i
  · obtain ⟨input, now, draw, rfl⟩ := he
    obtain ⟨stage, stage', hi, hi', hm⟩ := h.moves
    cases hr with
    | before hb hr =>
      obtain rfl := Option.some.inj (hb.symm.trans hi)
      obtain ⟨hs, hr' | ⟨rfl, hg⟩ | rfl⟩ := hm.isRetry hr
      · exact .before hi' hr'
      · rw [← hs] at hg
        exact .during hi' rfl (hg ▸ hs ▸ (hu.generation_between .retry).1) fun _ => hg
      · exact .done hi'
    | during hd ha hle hg =>
      obtain rfl := Option.some.inj (hd.symm.trans hi)
      rcases hm.isAttempt ha with ⟨ha', hs⟩ | rfl
      · exact .during hi' ha' hle fun hp => hs ▸ hg (before hp)
      · exact .done hi'
    | done hf =>
      obtain rfl := Option.some.inj (hf.symm.trans hi)
      cases hm
  · cases hr with
    | before hb hr => exact .before (h.task_kept he hb) hr
    | during hd ha hle hg =>
      obtain ⟨hf, hs⟩ := h.no_outcome hw hd (Stage.holdsGate_of_isAttempt ha) he
      refine .during (h.task_kept he hd) ha hle fun hp => ?_
      rw [h.retry_kept hf hs fun due hd => hp due (hd ▸ List.mem_cons_self)]
      exact hg (before hp)
    | done hf => exact .done (h.task_kept he hf)

/-- No task is a retry of a timer that is yet to be armed. -/
theorem isRetry_le {s : Session S} (h : Runs settings (.start s) past w) {stage : Stage S}
    (hi : w.tasks[i]? = some stage) (hr : stage.isRetry g) : g ≤ w.session.retry.generation :=
  (armed_between h hi (Stage.armedBy_of_isRetry hr)).2

end Traffic

end ClusterOperator.Provider
