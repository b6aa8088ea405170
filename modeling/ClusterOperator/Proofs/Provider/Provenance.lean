import ClusterOperator.Proofs.Provider.Attempts
import ClusterOperator.Provider.Client

/-!
# Where a session's token comes from

A session reads the source that it has when it logs in, and its token was issued for what
that source yielded. So as far as its sources are from a set, its token is for a credential
that one of that set has yielded.
-/

namespace ClusterOperator.Provider

variable {S : Type}

/-- What is on record of sources, of logins and of requests. -/
inductive Fact (S : Type) where
  | yielded (source : S) (c : Credential)
  | issued (session : SessionId) (c : Credential) (token : IssuedToken)
  | sent (request : Http.Request)

def Fact.ofRead (source : S) : Except CredentialError Credential → List (Fact S)
  | .ok c => [.yielded source c]
  | .error _ => []

namespace Traffic

/-- What an event at a session puts on record. -/
def facts (id : SessionId) (w : Traffic S) : Event S → List (Fact S)
  | .moved i (.credential r) _ _ =>
    match w.tasks[i]? with
    | some (.reading source) => Fact.ofRead source r
    | _ => []
  | .moved i (.token (.issued token)) _ _ =>
    match w.tasks[i]? with
    | some (.requesting c) => [.issued id c token]
    | _ => []
  | _ => []

/-- All that a session has to do with comes from sources of a set. -/
structure Sourced (P : S → Prop) (log : List (Fact S)) (id : SessionId) (w : Traffic S) : Prop where
  source : P w.session.source
  reading : ∀ (i : Nat) (source : S), w.tasks[i]? = some (.reading source) → P source
  requesting : ∀ (i : Nat) (c : Credential), w.tasks[i]? = some (.requesting c) →
    ∃ source, P source ∧ .yielded source c ∈ log
  token : w.session.state = .active → ∃ c token source, w.session.token = token.accessToken ∧
    .issued id c token ∈ log ∧ P source ∧ .yielded source c ∈ log
  blank : w.session.state ≠ .active → w.session.token = ""

variable {P P' : S → Prop} {log log' : List (Fact S)} {id : SessionId} {w w' : Traffic S}
  {e : Event S} {settings : SessionSettings}

theorem Sourced.mono (h : Sourced P log id w) (hP : ∀ source, P source → P' source)
    (hlog : ∀ f ∈ log, f ∈ log') : Sourced P' log' id w where
  source := hP _ h.source
  reading i source hi := hP _ (h.reading i source hi)
  requesting i c hi := by
    obtain ⟨source, hs, hy⟩ := h.requesting i c hi
    exact ⟨source, hP _ hs, hlog _ hy⟩
  token hact := by
    obtain ⟨c, token, source, ht, hi, hs, hy⟩ := h.token hact
    exact ⟨c, token, source, ht, hlog _ hi, hP _ hs, hlog _ hy⟩
  blank := h.blank

theorem sourced_opened {now : Instant} {endpoint : String} {source : S} (h : P source) :
    Sourced P log id (.start (.opened settings now endpoint source)) where
  source := h
  reading i source hi := by simp [start] at hi
  requesting i c hi := by simp [start] at hi
  token := nofun
  blank _ := rfl

/-! ## Steps -/

theorem source_of_moves {now : Instant} {draw : Float} {gateFree : Bool} {s s' : Session S}
    {stage stage' : Stage S} {input : Input}
    (h : Stage.Moves settings now draw gateFree s stage input s' stage') : s'.source = s.source := by
  cases h <;> rfl

theorem Step.source (h : Step settings w e w') :
    w'.session.source = w.session.source ∨ ∃ source, e = .replaced source ∧
      w'.session.source = source := by
  cases h with
  | replaced => exact .inr ⟨_, rfl, rfl⟩
  | @wentOff kind _ => exact .inl (by cases kind <;> rfl)
  | moved _ hs => exact .inl (source_of_moves (Stage.moves_of_step hs))
  | _ => exact .inl rfl

/-- A task at a source was there before, or has just been given the session's. -/
theorem Step.reading_before (h : Step settings w e w') {i : Nat} {source : S}
    (hi : w'.tasks[i]? = some (.reading source)) :
    w.tasks[i]? = some (.reading source) ∨ source = w.session.source := by
  rcases h.task_before hi with hi | ⟨_, _, _, stage, -, -, hm⟩ | ⟨c, -, -, hc⟩ | ⟨kind, -, -, hk⟩
  · exact .inl hi
  · generalize w'.session = s' at hm
    generalize hr : Stage.reading source = stage' at hm
    cases hm with
    | begun => exact .inr (Stage.reading.inj hr)
    | @detached kind _ _ => cases kind <;> cases hr
    | _ => cases hr
  · cases c <;> cases hc
  · cases hk

/-- A task that asks for a token did so before, or its source has just yielded the credential. -/
theorem Step.supplied_before (h : Step settings w e w') (id : SessionId) {i : Nat} {c : Credential}
    (hi : w'.tasks[i]? = some (.requesting c)) : w.tasks[i]? = some (.requesting c) ∨
      ∃ source, w.tasks[i]? = some (.reading source) ∧ .yielded source c ∈ facts id w e := by
  rcases h.task_before hi with hi | ⟨_, _, _, stage, rfl, hi', hm⟩ | ⟨c', -, -, hc⟩ | ⟨kind, -, -, hk⟩
  · exact .inl hi
  · generalize w'.session = s' at hm
    generalize hr : Stage.requesting c = stage' at hm
    cases hm with
    | @supplied source c _ =>
      obtain rfl := Stage.requesting.inj hr
      exact .inr ⟨source, hi', by simp [facts, hi', Fact.ofRead]⟩
    | @detached kind _ _ => cases kind <;> cases hr
    | _ => cases hr
  · cases c' <;> cases hc
  · cases hk

theorem Step.issued_for (h : Step settings w e w') (id : SessionId) {token : IssuedToken}
    (ha : e.answer? = some (.issued token)) : ∃ (i : Nat) (c : Credential),
      w.tasks[i]? = some (.requesting c) ∧
      .issued id c token ∈ facts id w e := by
  cases e with
  | moved i input now draw =>
    cases input with
    | token r =>
      obtain rfl := Option.some.inj ha
      obtain ⟨stage, stage', hi, -, hm⟩ := h.moves
      generalize w'.session = s' at hm
      cases hm with
      | issued => exact ⟨i, _, hi, by simp [facts, hi]⟩
    | _ => cases ha
  | _ => cases ha

/-- An active login is still the one that it was, or has just been issued. -/
theorem Step.token_sourced (h : Step settings w e w') (hw : Sourced P log id w)
    (hact : w'.session.state = .active) : ∃ c token source, w'.session.token = token.accessToken ∧
      .issued id c token ∈ facts id w e ++ log ∧ P source ∧ .yielded source c ∈ facts id w e ++ log := by
  have old : ∀ f ∈ log, f ∈ facts id w e ++ log := fun f hf => List.mem_append_right _ hf
  have kept (hs : w.session.state = .active) : ∃ c token source,
      w.session.token = token.accessToken ∧ .issued id c token ∈ facts id w e ++ log ∧
        P source ∧ .yielded source c ∈ facts id w e ++ log :=
    (hw.mono (fun _ hp => hp) old).token hs
  have hl := h.relogin
  change w'.session.login.state = .active at hact
  change ∃ c token source, w'.session.login.token = IssuedToken.accessToken token ∧ _
  generalize w'.session.login = login at hl hact ⊢
  generalize ha : e.answer? = a at hl
  -- only a token that was issued makes a login active that was not
  cases hl with
  | same => exact kept hact
  | demoted _ => cases hact
  | cleared hn => exact absurd hact hn
  | @issued token =>
    obtain ⟨i, c, hi, hf⟩ := h.issued_for id ha
    obtain ⟨source, hs, hy⟩ := hw.requesting i c hi
    exact ⟨c, token, source, rfl, List.mem_append_left _ hf, hs, old _ hy⟩
  | refused => cases hact
  | failed _ => cases hact
  | failedAgain _ => exact kept hact

theorem Step.blank (h : Step settings w e w')
    (hw : w.session.state ≠ .active → w.session.token = "") (hn : w'.session.state ≠ .active) :
    w'.session.token = "" := by
  have hl := h.relogin
  change w'.session.login.state ≠ .active at hn
  change w'.session.login.token = ""
  generalize w'.session.login = login at hl hn ⊢
  generalize e.answer? = a at hl
  cases hl with
  | same => exact hw hn
  | issued => exact absurd rfl hn
  | failed hs =>
    refine hw ?_
    rw [hs]
    nofun
  | failedAgain _ => exact hw hn
  | _ => rfl

theorem Step.sourced (h : Step settings w e w') (hw : Sourced P log id w)
    (hr : ∀ source, e = .replaced source → P source) :
    Sourced P (facts id w e ++ log) id w' where
  source := by
    rcases h.source with hs | ⟨source, he, hs⟩
    · exact hs ▸ hw.source
    · exact hs ▸ hr source he
  reading i source hi := by
    rcases h.reading_before hi with hi | rfl
    · exact hw.reading i source hi
    · exact hw.source
  requesting i c hi := by
    rcases h.supplied_before id hi with hi | ⟨source, hi, hy⟩
    · obtain ⟨source, hs, hy⟩ := hw.requesting i c hi
      exact ⟨source, hs, List.mem_append_right _ hy⟩
    · exact ⟨source, hw.reading i source hi, List.mem_append_left _ hy⟩
  token := h.token_sourced hw
  blank := h.blank hw.blank

end Traffic

end ClusterOperator.Provider
