import ClusterOperator.Proofs.Provider.Traffic

/-!
# Which token a session has

Whatever goes on at a session, it has a token only while its login is active,
and then the one that was issued last. Attempts that end before a token is asked
for leave both as they are.
-/

namespace ClusterOperator.Provider

variable {S : Type}

/-! ## State and token -/

/-- What a session has of its login, apart from the source and the timers. -/
structure Login where
  state : LoginState
  token : String
  tokenId : String

namespace Session

variable {s s' : Session S} {settings : SessionSettings} {now : Instant} {draw : Float}

def login (s : Session S) : Login := ⟨s.state, s.token, s.tokenId⟩

@[simp] theorem login_setTimer (kind : TimerKind) (t : Timer) : (s.setTimer kind t).login = s.login := by
  cases kind <;> rfl

@[simp] theorem login_schedule (due : Instant) : (s.schedule due).login = s.login :=
  login_setTimer ..

@[simp] theorem login_fire (kind : TimerKind) : (s.fire kind).login = s.login :=
  login_setTimer ..

@[simp] theorem login_retryLater : (s.retryLater settings now draw).login = s.login :=
  login_setTimer ..

theorem login_expireLogin : s.expireLogin.login =
    ⟨if s.state = LoginState.active then .inactive else s.state, "", s.tokenId⟩ :=
  login_setTimer ..

theorem login_succeed (token : IssuedToken) :
    (s.succeed settings now token).login = ⟨.active, token.accessToken, token.id⟩ := by
  simp only [succeed, arm, cancel, login_setTimer]
  rfl

theorem login_reject : (s.reject settings now draw).login = ⟨.rejected, "", s.tokenId⟩ :=
  login_retryLater

theorem login_fail : (s.fail settings now draw).login =
    ⟨if s.state = LoginState.unstarted then .failed else s.state, s.token, s.tokenId⟩ :=
  login_retryLater

end Session

/-! ## What happens to them -/

namespace Traffic

variable {settings : SessionSettings} {w w' w₀ : Traffic S} {e : Event S} {past : List (Event S)}

def Event.answer? : Event S → Option TokenAnswer
  | .moved _ (.token answer) _ _ => some answer
  | _ => none

def Event.issued? (e : Event S) : Option IssuedToken :=
  match e.answer? with
  | some (.issued token) => some token
  | _ => none

/-- Tells whether the credential is good. -/
def Event.decides (e : Event S) : Prop :=
  e.answer? = some .refused ∨ ∃ token, e.answer? = some (.issued token)

/-- What an event leaves of a login, by the answer that comes with it. -/
inductive Relogin (s : Session S) : Option TokenAnswer → Login → Prop
  | same : Relogin s none s.login
  | demoted : s.state = .active → Relogin s none ⟨.inactive, "", s.tokenId⟩
  | cleared : s.state ≠ .active → Relogin s none ⟨s.state, "", s.tokenId⟩
  | issued {token : IssuedToken} :
    Relogin s (some (.issued token)) ⟨.active, token.accessToken, token.id⟩
  | refused : Relogin s (some .refused) ⟨.rejected, "", s.tokenId⟩
  | failed : s.state = .unstarted → Relogin s (some .failed) ⟨.failed, s.token, s.tokenId⟩
  | failedAgain : s.state ≠ .unstarted → Relogin s (some .failed) s.login

theorem relogin_of_moves {gateFree : Bool} {s s' : Session S} {stage stage' : Stage S}
    {i : Nat} {input : Input} {now : Instant} {draw : Float}
    (h : Stage.Moves settings now draw gateFree s stage input s' stage') :
    Relogin s (Event.answer? (.moved i input now draw : Event S)) s'.login := by
  cases h with
  | expired =>
    rw [Session.login_expireLogin]
    by_cases hs : s.state = LoginState.active
    · rw [if_pos hs]
      exact .demoted hs
    · rw [if_neg hs]
      exact .cleared hs
  | unconfigured _ =>
    rw [Session.login_retryLater]
    exact .same
  | unread =>
    rw [Session.login_retryLater]
    exact .same
  | issued =>
    rw [Session.login_succeed]
    exact .issued
  | refused =>
    rw [Session.login_reject]
    exact .refused
  | failed =>
    rw [Session.login_fail]
    by_cases hs : s.state = LoginState.unstarted
    · rw [if_pos hs]
      exact .failed hs
    · rw [if_neg hs]
      exact .failedAgain hs
  | _ => exact .same

theorem Step.relogin (h : Step settings w e w') : Relogin w.session e.answer? w'.session.login := by
  cases h with
  | called => exact .same
  | planned =>
    rw [Session.login_schedule]
    exact .same
  | replaced => exact .same
  | used => exact .same
  | wentOff _ =>
    rw [Session.login_fire]
    exact .same
  | moved _ hs => exact relogin_of_moves (Stage.moves_of_step hs)

/-! ## Whole runs -/

structure Disciplined (past : List (Event S)) (login : Login) : Prop where
  blank : login.state ≠ .active → login.token = ""
  latest : login.state = .active → ∃ token, past.findSome? Event.issued? = some token ∧
    login.token = token.accessToken ∧ login.tokenId = token.id
  decided : (∃ e ∈ past, e.decides) → login.state ∈ [LoginState.active, .inactive, .rejected]

/-- An event that brings neither a token nor a refusal tells nothing new. -/
theorem Disciplined.cons {login : Login} (h : Disciplined past login)
    (hi : ∀ token, e.answer? ≠ some (.issued token)) (hr : e.answer? ≠ some .refused) :
    Disciplined (e :: past) login where
  blank := h.blank
  latest hact := by
    have hn : e.issued? = none := by
      unfold Event.issued?
      split
      · exact absurd ‹_› (hi _)
      · rfl
    rw [List.findSome?_cons, hn]
    exact h.latest hact
  decided hd := by
    obtain ⟨e', hm, hd⟩ := hd
    rcases List.mem_cons.mp hm with rfl | hm
    · rcases hd with hd | ⟨token, hd⟩
      · exact absurd hd hr
      · exact absurd hd (hi token)
    · exact h.decided ⟨e', hm, hd⟩

theorem Relogin.disciplined {s : Session S} {login : Login}
    (h : Relogin s e.answer? login) (ih : Disciplined past s.login) :
    Disciplined (e :: past) login := by
  generalize ha : e.answer? = a at h
  cases h with
  | same => exact ih.cons (ha ▸ nofun) (ha ▸ nofun)
  | demoted _ =>
    have hd : Disciplined past ⟨.inactive, "", s.tokenId⟩ := ⟨fun _ => rfl, nofun, fun _ => by simp⟩
    exact hd.cons (ha ▸ nofun) (ha ▸ nofun)
  | cleared hs =>
    have hd : Disciplined past ⟨s.state, "", s.tokenId⟩ :=
      ⟨fun _ => rfl, fun hact => absurd hact hs, ih.decided⟩
    exact hd.cons (ha ▸ nofun) (ha ▸ nofun)
  | @issued token =>
    have hi : e.issued? = some token := by simp [Event.issued?, ha]
    refine ⟨fun hn => absurd rfl hn, fun _ => ⟨token, ?_, rfl, rfl⟩, fun _ => by simp⟩
    rw [List.findSome?_cons, hi]
  | refused => exact ⟨fun _ => rfl, nofun, fun _ => by simp⟩
  | failed hs =>
    -- no credential was judged before, or the state would not be `unstarted`
    have hn : ¬ ∃ e ∈ past, e.decides := by
      intro hd
      have hin := ih.decided hd
      simp [Session.login, hs] at hin
    have hb : s.token = "" := ih.blank (by simp [Session.login, hs])
    have hd : Disciplined past ⟨.failed, s.token, s.tokenId⟩ :=
      ⟨fun _ => hb, nofun, fun hd => absurd hd hn⟩
    exact hd.cons (ha ▸ nofun) (ha ▸ nofun)
  | failedAgain _ => exact ih.cons (ha ▸ nofun) (ha ▸ nofun)

theorem disciplined_of_runs {endpoint : String} {source : S}
    (h : Runs settings (.start (.start settings endpoint source)) past w) :
    Disciplined past w.session.login := by
  induction h with
  | refl => exact ⟨fun _ => rfl, nofun, fun ⟨_, hm, _⟩ => absurd hm List.not_mem_nil⟩
  | step _ hs ih => exact hs.relogin.disciplined ih

theorem Step.enters (h : Step settings w e w') :
    (w'.session.state = .unstarted → w.session.state = .unstarted) ∧
      (w'.session.state = .failed → w.session.state = .failed ∨ w.session.state = .unstarted) := by
  have hr := h.relogin
  have state : w'.session.state = w'.session.login.state := rfl
  rw [state]
  generalize w'.session.login = login at hr
  generalize e.answer? = a at hr
  cases hr with
  | same => exact ⟨id, .inl⟩
  | demoted _ => exact ⟨nofun, nofun⟩
  | cleared _ => exact ⟨id, .inl⟩
  | issued => exact ⟨nofun, nofun⟩
  | refused => exact ⟨nofun, nofun⟩
  | failed hs => exact ⟨fun _ => hs, fun _ => .inr hs⟩
  | failedAgain _ => exact ⟨id, .inl⟩

/-! ## Attempts without a credential -/

/-- An answer of a source that no token is asked for with. -/
def Useless : Except CredentialError Credential → Prop
  | .ok c => c.isZero
  | .error _ => True

theorem Step.useless {i : Nat} {r : Except CredentialError Credential} {now : Instant} {draw : Float}
    (h : Step settings w (.moved i (.credential r) now draw) w') (hr : Useless r) :
    (∃ source, w.tasks[i]? = some (.reading source)) ∧ w'.tasks[i]? = some .finished ∧
      w'.session.login = w.session.login := by
  obtain ⟨stage, stage', hi, hi', hm⟩ := h.moves
  generalize w'.session = s' at hm ⊢
  cases hm with
  | supplied hz =>
    have hz' := hr
    simp only [Useless, hz] at hz'
    cases hz'
  | unconfigured _ => exact ⟨⟨_, hi⟩, hi', Session.login_retryLater⟩
  | unread => exact ⟨⟨_, hi⟩, hi', Session.login_retryLater⟩

/-- Up to the answer of the source, a task leaves the session alone. -/
theorem session_of_moves {gateFree : Bool} {s s' : Session S} {stage stage' : Stage S}
    {input : Input} {now : Instant} {draw : Float}
    (h : Stage.Moves settings now draw gateFree s stage input s' stage') (hr : 2 ≤ stage'.rank) :
    s' = s := by
  cases h with
  | expired => exact absurd hr (by simp [Stage.rank])
  | unconfigured _ => exact absurd hr (by simp [Stage.rank])
  | unread => exact absurd hr (by simp [Stage.rank])
  | issued => exact absurd hr (by simp [Stage.rank])
  | refused => exact absurd hr (by simp [Stage.rank])
  | failed => exact absurd hr (by simp [Stage.rank])
  | _ => rfl

theorem finished_of_rank {stage : Stage S} (h : stage.rank ≤ 0) : stage = .finished := by
  cases stage <;> first | rfl | simp [Stage.rank] at h

/-- After the step the task waits for no token; if it was the task's own, it left
the login as it was. -/
def Idles (i : Nat) (v : Traffic S) (e : Event S) (v' : Traffic S) : Prop :=
  (∀ c, v'.tasks[i]? ≠ some (.requesting c)) ∧
    ∀ input now draw, e = .moved i input now draw → v'.session.login = v.session.login

theorem idles_before {v : Traffic S} (hs : Step settings v e w₀) {after : List (Event S)}
    (h : Runs settings w₀ after w) {i : Nat} {r : Except CredentialError Credential} {now : Instant}
    {draw : Float} (hm : .moved i (.credential r) now draw ∈ after) (hr : Useless r) :
    Idles i v e w₀ := by
  obtain ⟨_, _, u, u', -, hu, hs', -⟩ := h.split hm
  obtain ⟨⟨source, hread⟩, -, -⟩ := hs'.useless hr
  -- the task is at the source later on, so it is not past it now
  have rank : ∀ {stage}, w₀.tasks[i]? = some stage → 2 ≤ stage.rank := by
    intro stage hi
    obtain ⟨stage', hi', hl⟩ := hu.rank_le hi
    obtain rfl := Option.some.inj (hread.symm.trans hi')
    exact hl
  constructor
  · intro c hi
    exact absurd (rank hi) (by simp [Stage.rank])
  · rintro input now draw rfl
    obtain ⟨stage, stage', -, hi', hmv⟩ := hs.moves
    rw [session_of_moves hmv (rank hi')]

theorem idles_after {v v' : Traffic S} {before : List (Event S)} (h : Runs settings w₀ before v)
    (hs : Step settings v e v') {i : Nat} {r : Except CredentialError Credential} {now : Instant}
    {draw : Float} (hm : .moved i (.credential r) now draw ∈ before) (hr : Useless r) :
    Idles i v e v' := by
  obtain ⟨_, _, u, u', -, -, hs', hu⟩ := h.split hm
  obtain ⟨-, hfin, -⟩ := hs'.useless hr
  obtain ⟨stage, hi, hl⟩ := hu.rank_le hfin
  obtain rfl := finished_of_rank hl
  constructor
  · intro c hc
    obtain ⟨stage', hi', hl'⟩ := hs.rank_le hi
    obtain rfl := Option.some.inj (hc.symm.trans hi')
    exact absurd hl' (by simp [Stage.rank])
  · rintro input now draw rfl
    obtain ⟨stage, stage', hi', -, hmv⟩ := hs.moves
    obtain rfl := Option.some.inj (hi.symm.trans hi')
    exact absurd hmv.rank_lt (by simp [Stage.rank])

/-- A session has a token only while it is active, the one that was issued last.
It never gets back to `unstarted`, gets to `failed` only from there, and to
neither once the provider has judged a credential. A task that gets no credential
asks for no token, and leaves the login as it is. -/
theorem tokens_disciplined {endpoint : String} {source : S}
    (h : Runs settings (.start (.start settings endpoint source)) past w) :
    (w.session.state ≠ .active → w.session.token = "") ∧
    (w.session.state = .active → ∃ token, past.findSome? Event.issued? = some token ∧
      w.session.token = token.accessToken ∧ w.session.tokenId = token.id) ∧
    (∀ e w', Step settings w e w' →
      (w'.session.state = .unstarted → w.session.state = .unstarted) ∧
      (w'.session.state = .failed → w.session.state = .failed ∨ w.session.state = .unstarted)) ∧
    ((∃ e ∈ past, e.decides) → w.session.state ∈ [LoginState.active, .inactive, .rejected]) ∧
    ∀ i r now draw, Event.moved i (.credential r) now draw ∈ past → Useless r →
      ∀ before e after v v', past = after ++ e :: before →
        Runs settings (.start (.start settings endpoint source)) before v → Step settings v e v' →
        Runs settings v' after w → Idles i v e v' := by
  have hd := disciplined_of_runs h
  refine ⟨hd.blank, hd.latest, fun e w' hs => hs.enters, hd.decided, ?_⟩
  intro i r now draw hm hr before e after v v' hp hb hs ha
  rw [hp] at hm
  rcases List.mem_append.mp hm with hm | hm
  · exact idles_before hs ha hm hr
  · rcases List.mem_cons.mp hm with rfl | hm
    · obtain ⟨-, hfin, hl⟩ := hs.useless hr
      refine ⟨fun c hc => ?_, fun _ _ _ _ => hl⟩
      cases hfin.symm.trans hc
    · exact idles_after hb hs hm hr

namespace Sample

def begun : Traffic Unit := .start (.start .start "https://api.example.com" ())

def token : IssuedToken := ⟨"token", "t1", 600⟩

def active : Session Unit := begun.session.succeed .start 0 token

/-- What a login does up to the source. -/
def asking (task : Nat) : List (Event Unit) :=
  [.moved task .none 0 0, .moved task .none 0 0, .moved task .none 0 0, .called .login]

def loggedIn : List (Event Unit) :=
  [.moved 0 (.token (.issued token)) 0 0, .moved 0 (.credential (.ok ⟨"key", "secret"⟩)) 0 0] ++ asking 0

theorem login_runs : Runs .start begun loggedIn ⟨active, [.finished]⟩ := by
  have h₁ : Runs .start begun (asking 0) ⟨begun.session, [.reading ()]⟩ :=
    .step (.step (.step (.step .refl .called) (.moved rfl rfl)) (.moved rfl rfl)) (.moved rfl rfl)
  have h₂ : Runs .start begun (.moved 0 (.credential (.ok ⟨"key", "secret"⟩)) 0 0 :: asking 0)
      ⟨begun.session, [.requesting ⟨"key", "secret"⟩]⟩ := h₁.step (.moved rfl rfl)
  exact h₂.step (.moved rfl rfl)

def unread : Event Unit := .moved 1 (.credential (.error (.unavailable "")) ) 0 0

theorem unread_runs : Runs .start begun (unread :: (asking 1 ++ loggedIn))
    ⟨active.retryLater .start 0 0, [.finished, .finished]⟩ := by
  have h : Runs .start begun (asking 1 ++ loggedIn) ⟨active, [.finished, .reading ()]⟩ :=
    .step (.step (.step (.step login_runs .called) (.moved rfl rfl)) (.moved rfl rfl)) (.moved rfl rfl)
  exact h.step (.moved rfl rfl)

end Sample

/-- A second login finds no credential, and the first one's token stays. -/
theorem tokens_disciplined_unread : ∃ past w,
    Runs .start Sample.begun (Sample.unread :: past) w ∧ w.session.state = .active ∧
      w.session.token = "token" ∧ w.session.tokenId = "t1" := by
  obtain ⟨-, hact, -, -, -⟩ := tokens_disciplined Sample.unread_runs
  obtain ⟨token, hi, ht, hid⟩ := hact rfl
  obtain rfl : Sample.token = token := Option.some.inj hi
  exact ⟨_, _, Sample.unread_runs, rfl, ht, hid⟩

end Traffic

end ClusterOperator.Provider
