import ClusterOperator.Proofs.Provider.Attempts

/-!
# No login is given up

As long as a session cannot log in, somebody is at it: a retry is planned, or one
that went off is on its way through the gate, or an attempt is under way. An
attempt that fails plans the next one, by the number of failures before it.
-/

namespace ClusterOperator.Provider

variable {S : Type}

/-- Whether a task logs in, or is going to as long as the retry timer stays as it is. -/
def Stage.pursues (retry : Timer) : Stage S → Bool
  -- it went off, and did not let go of the timer yet
  | .fired .retry generation => generation = retry.generation
  | .waiting (.retry generation) => generation = retry.generation
  -- through the gate, but its generation is still to be looked at
  | .entered (.retry generation) => generation = retry.generation
  | .admitted | .reading _ | .requesting _ => true
  | _ => false

/-- A task that pursues a login goes on, or has a retry armed in its place, or logs in. -/
theorem Stage.Moves.pursues {settings : SessionSettings} {gateFree : Bool} {s s' : Session S}
    {stage stage' : Stage S} {i : Nat} {input : Input} {now : Instant} {draw : Float}
    (h : Stage.Moves settings now draw gateFree s stage input s' stage')
    (hp : stage.pursues s.retry) :
    stage'.pursues s'.retry ∨ s'.retry.due.isSome ∨
      (Traffic.Event.moved i input now draw : Traffic.Event S).succeeds := by
  cases h with
  | wanted _ => cases hp
  | unwanted _ => cases hp
  | @detached kind generation hg =>
    cases kind with
    | retry => exact .inl hp
    | renew => cases hp
    | expire => cases hp
  | @outdated kind generation hg =>
    cases kind with
    | retry => exact absurd (of_decide_eq_true hp).symm hg
    | renew => cases hp
    | expire => cases hp
  | renewed _ => cases hp
  | idle _ => cases hp
  | expired => cases hp
  | @passed entry _ => cases entry <;> exact .inl hp
  | admitted _ => exact .inl rfl
  | @superseded entry hw =>
    cases entry with
    | ping => cases hp
    | login => cases hp
    | retry generation =>
      have hg : ¬ s.retry.generation = generation := of_decide_eq_false hw
      exact absurd (of_decide_eq_true hp).symm hg
  | begun => exact .inl rfl
  | supplied _ => exact .inl rfl
  | unconfigured _ => exact .inr (.inl rfl)
  | unread => exact .inr (.inl rfl)
  | issued => exact .inr (.inr rfl)
  | refused => exact .inr (.inl rfl)
  | failed => exact .inr (.inl rfl)

namespace Traffic

variable {settings : SessionSettings} {w w' : Traffic S} {e : Event S} {past : List (Event S)}

/-- Somebody sees to it that the session logs in. -/
inductive Pursued (w : Traffic S) : Prop
  | armed : w.session.retry.due.isSome → Pursued w
  | task {i : Nat} {stage : Stage S} : w.tasks[i]? = some stage → stage.pursues w.session.retry → Pursued w

/-! ## Who is at it -/

theorem Step.retry_cases (h : Step settings w e w') :
    w'.session.retry.due.isSome ∨ w'.session.retry = w.session.retry ∨
      (e = .wentOff .retry ∧ w'.session.retry = w.session.retry.fire) ∨ e.succeeds := by
  have hr := h.replans
  generalize w'.session.retry = t at hr ⊢
  generalize w'.session.cursor = c at hr
  cases hr with
  | kept _ _ => exact .inr (.inl rfl)
  | planned => exact .inl rfl
  | wentOff => exact .inr (.inr (.inl ⟨rfl, rfl⟩))
  | failed _ => exact .inl rfl
  | succeeded hs => exact .inr (.inr (.inr hs))

/-- Only a token ends the pursuit of a login. -/
theorem Step.pursued (h : Step settings w e w') (hp : w.Pursued) : w'.Pursued ∨ e.succeeds := by
  rcases h.retry_cases with ha | hk | ⟨rfl, hk⟩ | hs
  · exact .inl (.armed ha)
  · cases hp with
    | armed ha =>
      rw [← hk] at ha
      exact .inl (.armed ha)
    | @task i stage hi hp =>
      rcases h.task_cases hi with hi' | ⟨input, now, draw, stage', rfl, hi', hm⟩
      · rw [← hk] at hp
        exact .inl (.task hi' hp)
      · rcases hm.pursues hp with hp' | ha | hs
        · exact .inl (.task hi' hp')
        · exact .inl (.armed ha)
        · exact .inr hs
  · -- the timer that went off still has the generation that its task was started with
    refine .inl (.task h.wentOff_task ?_)
    rw [hk]
    exact decide_eq_true rfl
  · exact .inr hs

theorem Step.armed_of_fails (h : Step settings w e w') (hf : e.fails) :
    w'.session.retry.due.isSome := by
  cases e with
  | moved i input now draw =>
    rw [(h.rearmed hf).1]
    rfl
  | _ => cases hf

/-- A session that is logged out after a step was so before, or the step was a refusal. -/
theorem Step.loggedOut (h : Step settings w e w')
    (ho : w'.session.state ∈ [LoginState.unstarted, .failed, .rejected]) :
    e.succeeds = false ∧ (w.session.state ∈ [LoginState.unstarted, .failed, .rejected] ∨
      w'.session.retry.due.isSome) := by
  have hr := h.relogin
  have state : w'.session.state = w'.session.login.state := rfl
  rw [state] at ho
  generalize w'.session.login = login at hr ho
  generalize ha : e.answer? = a at hr
  cases hr with
  | same => exact ⟨Event.not_succeeds_of_answer (ha ▸ nofun), .inl ho⟩
  | demoted _ => simp at ho
  | cleared _ => exact ⟨Event.not_succeeds_of_answer (ha ▸ nofun), .inl ho⟩
  | issued => simp at ho
  | refused =>
    exact ⟨Event.not_succeeds_of_answer (ha ▸ nofun),
      .inr (h.armed_of_fails (Event.fails_of_answer ha nofun))⟩
  | failed hs => exact ⟨Event.not_succeeds_of_answer (ha ▸ nofun), .inl (by simp [hs])⟩
  | failedAgain _ => exact ⟨Event.not_succeeds_of_answer (ha ▸ nofun), .inl ho⟩

theorem pursued_of_runs {now : Instant} {endpoint : String} {source : S}
    (h : Runs settings (.start (.opened settings now endpoint source)) past w)
    (ho : w.session.state ∈ [LoginState.unstarted, .failed, .rejected]) : w.Pursued := by
  induction h with
  | refl => exact .armed rfl
  | @step past w w' e _ hs ih =>
    obtain ⟨hn, hw | ha⟩ := hs.loggedOut ho
    · rcases hs.pursued (ih hw) with hp | hs
      · exact hp
      · rw [hn] at hs
        cases hs
    · exact .armed ha

/-! ## How long it waits -/

/-- Attempts that failed since the last one that did not, the latest event first. -/
def failures : List (Event S) → Nat
  | [] => 0
  | e :: past => if e.succeeds then 0 else if e.fails then failures past + 1 else failures past

theorem cursor_of_runs {now : Instant} {endpoint : String} {source : S}
    (h : Runs settings (.start (.opened settings now endpoint source)) past w) :
    w.session.cursor = ⟨settings.backoff.growth, min (failures past) maxFailures⟩ := by
  induction h with
  | refl => rfl
  | @step past w w' e _ hs ih =>
    have hr := hs.replans
    unfold failures
    generalize w'.session.retry = t at hr
    generalize w'.session.cursor = c at hr ⊢
    cases hr with
    | kept hf hs => rw [hs, hf]; exact ih
    | planned => exact ih
    | wentOff => exact ih
    | failed hf =>
      rw [Event.not_succeeds_of_fails hf, hf, ih, if_neg Bool.false_ne_true, if_pos rfl, ← oneMore_min]
      rfl
    | succeeded hs =>
      rw [hs, ih]
      rfl

/-- What a step makes of an attempt: it goes on, or has its token, or has failed and
armed the next one. -/
theorem Step.attempt_cases (h : Step settings w e w') {i : Nat} {stage : Stage S}
    (hi : w.tasks[i]? = some stage) (ha : stage.isAttempt) :
    (∃ stage', w'.tasks[i]? = some stage' ∧ stage'.isAttempt) ∨
      ∃ input now draw, e = .moved i input now draw ∧ (e.succeeds ∨ e.fails) := by
  rcases h.task_cases hi with hi' | ⟨input, now, draw, stage', rfl, hi', hm⟩
  · exact .inl ⟨stage, hi', ha⟩
  · generalize w'.session = s' at hm
    cases hm with
    | begun => exact .inl ⟨_, hi', rfl⟩
    | supplied _ => exact .inl ⟨_, hi', rfl⟩
    | unconfigured hz => exact .inr ⟨_, now, draw, rfl, .inr hz⟩
    | unread => exact .inr ⟨_, now, draw, rfl, .inr rfl⟩
    | issued => exact .inr ⟨_, now, draw, rfl, .inl rfl⟩
    | refused => exact .inr ⟨_, now, draw, rfl, .inr rfl⟩
    | failed => exact .inr ⟨_, now, draw, rfl, .inr rfl⟩
    | _ => cases ha

/-- A session whose first login is planned when it is made is never given up: while it is
logged out, a retry is armed or a task sees to it. An attempt goes on until it has a token
or fails, and one that fails, whatever it fails of, arms a retry with the delay for as many
failures as there were since the last success. -/
theorem never_abandoned {now₀ : Instant} {endpoint : String} {source : S}
    (h : Runs settings (.start (.opened settings now₀ endpoint source)) past w) :
    (w.session.state ∈ [LoginState.unstarted, .failed, .rejected] → w.Pursued) ∧
    ∀ e w', Step settings w e w' →
      (∀ i stage, w.tasks[i]? = some stage → stage.isAttempt →
        (∃ stage', w'.tasks[i]? = some stage' ∧ stage'.isAttempt) ∨
          ∃ input now draw, e = .moved i input now draw ∧ (e.succeeds ∨ e.fails)) ∧
      ∀ i input now draw, e = .moved i input now draw → e.fails →
        (∃ stage, w.tasks[i]? = some stage ∧ stage.isAttempt) ∧
        w'.session.retry = w.session.retry.arm
          (now + (settings.backoff.delay (min (failures past) maxFailures) draw).nanos) := by
  refine ⟨pursued_of_runs h, fun e w' hs => ⟨fun i stage => hs.attempt_cases, ?_⟩⟩
  rintro i input now draw rfl hf
  refine ⟨hs.attempt_of_fails hf, ?_⟩
  rw [(hs.rearmed hf).1, cursor_of_runs h]
  rfl

namespace Sample

def planned : Traffic Unit := .start (.opened .start 0 "https://api.example.com" ())

/-- What a retry does up to the source, with its timer's going off. -/
def retrying (task : Nat) : List (Event Unit) :=
  [.moved task .none 0 0, .moved task .none 0 0, .moved task .none 0 0, .moved task .none 0 0,
    .wentOff .retry]

def refusing : List (Event Unit) :=
  [.moved 0 (.token .refused) 0 0, .moved 0 (.credential (.ok ⟨"key", "secret"⟩)) 0 0] ++ retrying 0

def refused : Session Unit := (planned.session.fire .retry).reject .start 0 0

theorem refusing_runs : Runs .start planned refusing ⟨refused, [.finished]⟩ := by
  have h₁ : Runs .start planned (retrying 0) ⟨planned.session.fire .retry, [.reading ()]⟩ :=
    .step (.step (.step (.step (.step .refl (.wentOff rfl)) (.moved rfl rfl)) (.moved rfl rfl))
      (.moved rfl rfl)) (.moved rfl rfl)
  exact .step (.step h₁ (.moved rfl rfl)) (.moved rfl rfl)

theorem retrying_runs : Runs .start planned (retrying 1 ++ refusing)
    ⟨refused.fire .retry, [.finished, .reading ()]⟩ :=
  .step (.step (.step (.step (.step refusing_runs (.wentOff rfl)) (.moved rfl rfl)) (.moved rfl rfl))
    (.moved rfl rfl)) (.moved rfl rfl)

end Sample

/-- After a refusal the retry is at the source, and no timer is armed. Its failure arms one
for the second delay. -/
theorem never_abandoned_refused : ∃ past w w',
    Runs .start Sample.planned past w ∧ w.session.state = .rejected ∧ w.session.retry.due = none ∧
      w.Pursued ∧ Step .start w Sample.unread w' ∧
      w'.session.retry.due = some (SessionSettings.start.backoff.delay 1 0).nanos := by
  obtain ⟨hp, hn⟩ := never_abandoned Sample.retrying_runs
  have hs : Step .start ⟨Sample.refused.fire .retry, [.finished, .reading ()]⟩ Sample.unread
      ⟨(Sample.refused.fire .retry).retryLater .start 0 0, [.finished, .finished]⟩ := .moved rfl rfl
  obtain ⟨-, hf⟩ := hn _ _ hs
  obtain ⟨-, hr⟩ := hf 1 _ 0 0 rfl rfl
  have hk : min (failures (Sample.retrying 1 ++ Sample.refusing)) maxFailures = 1 := by decide
  refine ⟨_, _, _, Sample.retrying_runs, rfl, rfl, hp (by decide), hs, ?_⟩
  rw [hr, hk, Nat.zero_add]
  rfl

end Traffic

end ClusterOperator.Provider
