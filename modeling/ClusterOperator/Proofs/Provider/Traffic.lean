import ClusterOperator.Provider.Session.Stage

/-!
# Traffic at a session

Any number of tasks work on one session, each step under the session's lock.
In between, timers go off, logins are planned, sources replaced and tokens used;
sources and the provider answer what they like.
-/

namespace ClusterOperator.Provider

variable {S : Type}

/-! ## One task -/

namespace Stage

variable {settings : SessionSettings} {now : Instant} {draw : Float} {gateFree : Bool}
  {s s' : Session S} {stage stage' : Stage S} {input : Input}

/-- The steps of a task, and what each leaves of the session. -/
inductive Moves (settings : SessionSettings) (now : Instant) (draw : Float) (gateFree : Bool)
    (s : Session S) : Stage S → Input → Session S → Stage S → Prop
  | wanted : s.state.needsLogin → Moves settings now draw gateFree s .pinged .none s (.waiting .ping)
  | unwanted : s.state.needsLogin = false →
    Moves settings now draw gateFree s .pinged .none s .finished
  | detached {kind : TimerKind} {generation : Nat} : (s.timer kind).generation = generation →
    Moves settings now draw gateFree s (.fired kind generation) .none s (ofTimer kind generation)
  | outdated {kind : TimerKind} {generation : Nat} : (s.timer kind).generation ≠ generation →
    Moves settings now draw gateFree s (.fired kind generation) .none s .finished
  | renewed : s.isUsed → Moves settings now draw gateFree s .renewing .none s (.waiting .login)
  | idle : s.isUsed = false → Moves settings now draw gateFree s .renewing .none s .finished
  | expired : Moves settings now draw gateFree s .expiring .none s.expireLogin .finished
  | passed {entry : Entry} : gateFree →
    Moves settings now draw gateFree s (.waiting entry) .none s (.entered entry)
  | admitted {entry : Entry} : isWanted s entry →
    Moves settings now draw gateFree s (.entered entry) .none s .admitted
  | superseded {entry : Entry} : isWanted s entry = false →
    Moves settings now draw gateFree s (.entered entry) .none s .finished
  | begun : Moves settings now draw gateFree s .admitted .none s (.reading s.source)
  | supplied {source : S} {c : Credential} : c.isZero = false →
    Moves settings now draw gateFree s (.reading source) (.credential (.ok c)) s (.requesting c)
  | unconfigured {source : S} {c : Credential} : c.isZero →
    Moves settings now draw gateFree s (.reading source) (.credential (.ok c))
      (s.retryLater settings now draw) .finished
  | unread {source : S} {e : CredentialError} :
    Moves settings now draw gateFree s (.reading source) (.credential (.error e))
      (s.retryLater settings now draw) .finished
  | issued {c : Credential} {token : IssuedToken} :
    Moves settings now draw gateFree s (.requesting c) (.token (.issued token))
      (s.succeed settings now token) .finished
  | refused {c : Credential} : Moves settings now draw gateFree s (.requesting c) (.token .refused)
      (s.reject settings now draw) .finished
  | failed {c : Credential} : Moves settings now draw gateFree s (.requesting c) (.token .failed)
      (s.fail settings now draw) .finished

theorem moves_of_step (h : step? settings now draw gateFree s stage input = some (s', stage')) :
    Moves settings now draw gateFree s stage input s' stage' := by
  unfold step? at h
  split at h
  · obtain ⟨rfl, rfl⟩ := Prod.mk.inj (Option.some.inj h)
    by_cases hn : s.state.needsLogin
    · rw [if_pos hn]
      exact .wanted hn
    · rw [if_neg hn]
      exact .unwanted (by simpa using hn)
  · obtain ⟨rfl, rfl⟩ := Prod.mk.inj (Option.some.inj h)
    split
    · exact .detached ‹_›
    · exact .outdated ‹_›
  · obtain ⟨rfl, rfl⟩ := Prod.mk.inj (Option.some.inj h)
    by_cases hu : s.isUsed
    · rw [if_pos hu]
      exact .renewed hu
    · rw [if_neg hu]
      exact .idle (by simpa using hu)
  · obtain ⟨rfl, rfl⟩ := Prod.mk.inj (Option.some.inj h)
    exact .expired
  · split at h
    · obtain ⟨rfl, rfl⟩ := Prod.mk.inj (Option.some.inj h)
      exact .passed ‹_›
    · cases h
  · obtain ⟨rfl, rfl⟩ := Prod.mk.inj (Option.some.inj h)
    next entry =>
      by_cases hw : isWanted s entry
      · rw [if_pos hw]
        exact .admitted hw
      · rw [if_neg hw]
        exact .superseded (by simpa using hw)
  · obtain ⟨rfl, rfl⟩ := Prod.mk.inj (Option.some.inj h)
    exact .begun
  · split at h
    · obtain ⟨rfl, rfl⟩ := Prod.mk.inj (Option.some.inj h)
      exact .unconfigured ‹_›
    · obtain ⟨rfl, rfl⟩ := Prod.mk.inj (Option.some.inj h)
      next hz => exact .supplied (by simpa using hz)
  · obtain ⟨rfl, rfl⟩ := Prod.mk.inj (Option.some.inj h)
    exact .unread
  · obtain ⟨rfl, rfl⟩ := Prod.mk.inj (Option.some.inj h)
    exact .issued
  · obtain ⟨rfl, rfl⟩ := Prod.mk.inj (Option.some.inj h)
    exact .refused
  · obtain ⟨rfl, rfl⟩ := Prod.mk.inj (Option.some.inj h)
    exact .failed
  · cases h

theorem Moves.rank_lt (h : Moves settings now draw gateFree s stage input s' stage') :
    stage'.rank < stage.rank := by
  cases h with
  | @detached kind _ _ => cases kind <;> simp [ofTimer, rank]
  | _ => simp [rank]

end Stage

/-! ## Many tasks -/

/-- What others ask a session to do. -/
inductive Call where
  | ping
  | login
  | renew
  | expire

def Call.stage : Call → Stage S
  | .ping => .pinged
  | .login => .waiting .login
  | .renew => .renewing
  | .expire => .expiring

structure Traffic (S : Type) where
  session : Session S
  tasks : List (Stage S)

namespace Traffic

inductive Event (S : Type) where
  | called (c : Call)
  | planned (due : Instant)
  | replaced (source : S)
  | used (now : Instant)
  | wentOff (kind : TimerKind)
  /-- A task takes a step with an input. -/
  | moved (task : Nat) (input : Input) (now : Instant) (draw : Float)

def gateFree (w : Traffic S) : Bool := w.tasks.all fun stage => !stage.holdsGate

def start (s : Session S) : Traffic S := ⟨s, []⟩

variable (settings : SessionSettings)

inductive Step : Traffic S → Event S → Traffic S → Prop
  | called {w : Traffic S} {c : Call} : Step w (.called c) ⟨w.session, w.tasks ++ [c.stage]⟩
  | planned {w : Traffic S} {due : Instant} : Step w (.planned due) ⟨w.session.schedule due, w.tasks⟩
  | replaced {w : Traffic S} {source : S} :
    Step w (.replaced source) ⟨w.session.replaceSource source, w.tasks⟩
  | used {w : Traffic S} {now : Instant} : Step w (.used now) ⟨(w.session.use now).2, w.tasks⟩
  | wentOff {w : Traffic S} {kind : TimerKind} : (w.session.timer kind).due.isSome →
    Step w (.wentOff kind) ⟨w.session.fire kind,
      w.tasks ++ [.fired kind (w.session.timer kind).generation]⟩
  | moved {w : Traffic S} {i : Nat} {stage stage' : Stage S} {input : Input} {now : Instant}
      {draw : Float} {s : Session S} : w.tasks[i]? = some stage →
    Stage.step? settings now draw w.gateFree w.session stage input = some (s, stage') →
    Step w (.moved i input now draw) ⟨s, w.tasks.set i stage'⟩

/-- What can come of a session, with all that happened, the latest first. -/
inductive Runs (w₀ : Traffic S) : List (Event S) → Traffic S → Prop
  | refl : Runs w₀ [] w₀
  | step {past : List (Event S)} {w w' : Traffic S} {e : Event S} : Runs w₀ past w →
    Step settings w e w' → Runs w₀ (e :: past) w'

variable {settings} {w w' w₀ : Traffic S} {e : Event S} {past : List (Event S)}

/-- In each step a task stays as it is, or it is the one that moves. -/
theorem Step.task_cases (h : Step settings w e w') {i : Nat} {stage : Stage S}
    (hi : w.tasks[i]? = some stage) : w'.tasks[i]? = some stage ∨
      ∃ input now draw stage', e = .moved i input now draw ∧ w'.tasks[i]? = some stage' ∧
        Stage.Moves settings now draw w.gateFree w.session stage input w'.session stage' := by
  have hlt := (List.getElem?_eq_some_iff.mp hi).1
  cases h with
  | called => exact .inl ((List.getElem?_append_left hlt).trans hi)
  | planned => exact .inl hi
  | replaced => exact .inl hi
  | used => exact .inl hi
  | wentOff _ => exact .inl ((List.getElem?_append_left hlt).trans hi)
  | @moved j stage₀ stage' input now draw s hj hs =>
    by_cases hij : j = i
    · subst hij
      obtain rfl : stage₀ = stage := Option.some.inj (hj.symm.trans hi)
      exact .inr ⟨input, now, draw, stage', rfl, List.getElem?_set_self hlt, Stage.moves_of_step hs⟩
    · exact .inl ((List.getElem?_set_ne hij).trans hi)

theorem Step.moves {i : Nat} {input : Input} {now : Instant} {draw : Float}
    (h : Step settings w (.moved i input now draw) w') : ∃ stage stage',
      w.tasks[i]? = some stage ∧ w'.tasks[i]? = some stage' ∧
        Stage.Moves settings now draw w.gateFree w.session stage input w'.session stage' := by
  cases h with
  | moved hi hs =>
    exact ⟨_, _, hi, List.getElem?_set_self (List.getElem?_eq_some_iff.mp hi).1,
      Stage.moves_of_step hs⟩

/-- A task gets on, and never back. -/
theorem Step.rank_le (h : Step settings w e w') {i : Nat} {stage : Stage S}
    (hi : w.tasks[i]? = some stage) : ∃ stage', w'.tasks[i]? = some stage' ∧ stage'.rank ≤ stage.rank := by
  rcases h.task_cases hi with h₁ | ⟨_, _, _, stage', -, h₁, hm⟩
  · exact ⟨stage, h₁, Nat.le_refl _⟩
  · exact ⟨stage', h₁, Nat.le_of_lt hm.rank_lt⟩

theorem Runs.rank_le (h : Runs settings w₀ past w) {i : Nat} {stage : Stage S}
    (hi : w₀.tasks[i]? = some stage) : ∃ stage', w.tasks[i]? = some stage' ∧ stage'.rank ≤ stage.rank := by
  induction h with
  | refl => exact ⟨stage, hi, Nat.le_refl _⟩
  | step _ hs ih =>
    obtain ⟨stage₁, h₁, hl₁⟩ := ih
    obtain ⟨stage₂, h₂, hl₂⟩ := hs.rank_le h₁
    exact ⟨stage₂, h₂, Nat.le_trans hl₂ hl₁⟩

/-- What happened in a run happened in a step of it. -/
theorem Runs.split (h : Runs settings w₀ past w) (he : e ∈ past) : ∃ before after u u',
    past = after ++ e :: before ∧ Runs settings w₀ before u ∧ Step settings u e u' ∧
      Runs settings u' after w := by
  induction h with
  | refl => cases he
  | @step past w w' e' hw hs ih =>
    rcases List.mem_cons.mp he with rfl | he
    · exact ⟨past, [], w, w', rfl, hw, hs, .refl⟩
    · obtain ⟨before, after, u, u', rfl, hu, hs', hw⟩ := ih he
      exact ⟨before, e' :: after, u, u', rfl, hu, hs', hw.step hs⟩

end Traffic

end ClusterOperator.Provider
