import ClusterOperator.Proofs.Provider.SingleFlight

/-!
# A session in virtual time

Time goes on only when nobody is at a session, and never past the due time of a timer.
Nothing is asked of the session but pings and its token; its source and the provider
answer every login at once.
-/

namespace ClusterOperator.Provider

variable {S : Type}

def IssuedToken.lifetime (token : IssuedToken) : Span := .ofSeconds token.expiresIn.toNat

/-- What a login goes on with: a credential, and a token that is not to be renewed at once. -/
inductive Input.Accepting (settings : SessionSettings) : Input → Prop
  | none : Accepting settings .none
  | credential {c : Credential} : c.isZero = false → Accepting settings (.credential (.ok c))
  | token {token : IssuedToken} : settings.refreshBuffer.nanos < token.lifetime.nanos →
    Accepting settings (.token (.issued token))

namespace Session

variable (s : Session S)

@[simp] theorem timer_replaceSource (source : S) (kind : TimerKind) :
    (s.replaceSource source).timer kind = s.timer kind := by
  cases kind <;> rfl

@[simp] theorem timer_use (now : Instant) (kind : TimerKind) :
    (s.use now).2.timer kind = s.timer kind := by
  cases kind <;> rfl

end Session

/-! ## Tasks that come to nothing -/

namespace Stage

/-- A task that is over, or whose timer was replaced since it went off. -/
def IsStale (s : Session S) : Stage S → Prop
  | .fired kind generation => generation < (s.timer kind).generation
  | .waiting (.retry generation) | .entered (.retry generation) => generation < s.retry.generation
  | .finished => True
  | _ => False

variable {settings : SessionSettings} {now : Instant} {draw : Float} {gateFree : Bool}
  {s s' : Session S} {stage stage' : Stage S} {input : Input}

theorem Moves.isStale (h : Moves settings now draw gateFree s stage input s' stage')
    (hs : stage.IsStale s) : s' = s ∧ stage'.IsStale s := by
  cases h with
  | detached hg => exact absurd hg (Nat.ne_of_gt hs)
  | outdated _ => exact ⟨rfl, trivial⟩
  | @passed entry _ =>
    cases entry with
    | retry _ => exact ⟨rfl, hs⟩
    | ping => cases hs
    | login => cases hs
  | @admitted entry hw =>
    cases entry with
    | retry _ => exact absurd (of_decide_eq_true hw) (Nat.ne_of_gt hs)
    | ping => cases hs
    | login => cases hs
  | superseded _ => exact ⟨rfl, trivial⟩
  | _ => cases hs

theorem IsStale.mono (h : stage.IsStale s)
    (hg : ∀ kind, (s.timer kind).generation ≤ (s'.timer kind).generation) : stage.IsStale s' := by
  cases stage with
  | fired kind _ => exact Nat.lt_of_lt_of_le h (hg kind)
  | waiting entry =>
    cases entry with
    | retry _ => exact Nat.lt_of_lt_of_le h (hg .retry)
    | ping => cases h
    | login => cases h
  | entered entry =>
    cases entry with
    | retry _ => exact Nat.lt_of_lt_of_le h (hg .retry)
    | ping => cases h
    | login => cases h
  | finished => trivial
  | _ => cases h

theorem isStale_of_armedBy {kind : TimerKind} {g : Nat} (h : stage.armedBy? = some (kind, g))
    (hg : g < (s.timer kind).generation) : stage.IsStale s := by
  cases stage with
  | fired _ _ =>
    cases h
    exact hg
  | waiting entry | entered entry =>
    cases entry with
    | retry _ =>
      cases h
      exact hg
    | ping => cases h
    | login => cases h
  | _ => cases h

/-- An attempt goes on as long as it gets what it needs, and ends with a token. -/
theorem Moves.accepted (h : Moves settings now draw gateFree s stage input s' stage')
    (ha : stage.isAttempt) (hi : input.Accepting settings)
    (hn : ∀ token, input ≠ .token (.issued token)) : s' = s ∧ stage'.isAttempt := by
  cases h with
  | begun => exact ⟨rfl, rfl⟩
  | supplied _ => exact ⟨rfl, rfl⟩
  | unconfigured hz =>
    cases hi with
    | credential hz' =>
      rw [hz] at hz'
      cases hz'
  | unread => cases hi
  | @issued _ token => exact absurd rfl (hn token)
  | refused => cases hi
  | failed => cases hi
  | _ => cases ha

/-- A task that may log in, but has not got there: any but a renewal or an expiry. -/
def IsOpen (s : Session S) (stage : Stage S) : Prop :=
  stage.IsStale s ∨ stage.isPing ∨ stage.isRetry s.retry.generation ∨ stage.isAttempt

theorem IsOpen.of_same (h : stage.IsOpen s)
    (hg : ∀ kind, (s'.timer kind).generation = (s.timer kind).generation) : stage.IsOpen s' := by
  have hr : s'.retry.generation = s.retry.generation := hg .retry
  rcases h with hst | hrest
  · exact .inl (hst.mono fun kind => Nat.le_of_eq (hg kind).symm)
  · rw [← hr] at hrest
    exact .inr hrest

theorem Moves.isOpen (h : Moves settings now draw gateFree s stage input s' stage')
    (ho : stage.IsOpen s) (hi : input.Accepting settings)
    (hn : ∀ token, input ≠ .token (.issued token)) : s' = s ∧ stage'.IsOpen s := by
  rcases ho with hst | hp | hr | ha
  · exact (h.isStale hst).imp_right .inl
  · obtain ⟨hs, hp' | ⟨rfl, -⟩ | rfl⟩ := h.isPing hp
    · exact ⟨hs, .inr (.inl hp')⟩
    · exact ⟨hs, .inr (.inr (.inr rfl))⟩
    · exact ⟨hs, .inl trivial⟩
  · obtain ⟨hs, hr' | ⟨rfl, -⟩ | rfl⟩ := h.isRetry hr
    · exact ⟨hs, .inr (.inr (.inl hr'))⟩
    · exact ⟨hs, .inr (.inr (.inr rfl))⟩
    · exact ⟨hs, .inl trivial⟩
  · exact (h.accepted ha hi hn).imp_right fun ha' => .inr (.inr (.inr ha'))

end Stage

namespace Traffic

variable {settings : SessionSettings} {w w' w₀ v u : Traffic S} {e : Event S} {past : List (Event S)}
  {now start later : Instant} {log mid : List (Instant × Event S)} {token : IssuedToken}
  {alone : Nat → Prop} {p p' : Prop}

/-! ## What happens when -/

/-- What may happen at an instant. -/
inductive Event.Timely (settings : SessionSettings) (now : Instant) (w : Traffic S) : Event S → Prop
  | pinged : Timely settings now w (.called .ping)
  | replaced {source : S} : Timely settings now w (.replaced source)
  | used : Timely settings now w (.used now)
  | wentOff {kind : TimerKind} : (w.session.timer kind).due = some now →
    Timely settings now w (.wentOff kind)
  | moved {i : Nat} {input : Input} {draw : Float} : input.Accepting settings →
    Timely settings now w (.moved i input now draw)

/-- Nobody is at the session, and no timer is due before. -/
structure Awaits (w : Traffic S) (later : Instant) : Prop where
  settled : Settled w
  undue : ∀ kind due, (w.session.timer kind).due = some due → later ≤ due

/-- What can come of a session from an instant on, with all that happened and when, the latest
first. -/
inductive Passes (settings : SessionSettings) (start : Instant) (w₀ : Traffic S) :
    List (Instant × Event S) → Instant → Traffic S → Prop
  | refl : Passes settings start w₀ [] start w₀
  | act {log : List (Instant × Event S)} {now : Instant} {w w' : Traffic S} {e : Event S} :
    Passes settings start w₀ log now w → e.Timely settings now w → Step settings w e w' →
    Passes settings start w₀ ((now, e) :: log) now w'
  | wait {log : List (Instant × Event S)} {now later : Instant} {w : Traffic S} :
    Passes settings start w₀ log now w → now < later → Awaits w later →
    Passes settings start w₀ log later w

theorem Passes.runs (h : Passes settings start w₀ log now w) :
    Runs settings w₀ (log.map (·.2)) w := by
  induction h with
  | refl => exact .refl
  | act _ _ hs ih => exact ih.step hs
  | wait _ _ _ ih => exact ih

theorem Passes.start_le (h : Passes settings start w₀ log now w) : start ≤ now := by
  induction h with
  | refl => exact Nat.le_refl _
  | act _ _ _ ih => exact ih
  | wait _ hl _ ih => exact Nat.le_trans ih (Nat.le_of_lt hl)

theorem Passes.since (h : Passes settings start w₀ log now w) : ∀ x ∈ log, start ≤ x.1 := by
  induction h with
  | refl => nofun
  | act hp _ _ ih => exact List.forall_mem_cons.mpr ⟨hp.start_le, ih⟩
  | wait _ _ _ ih => exact ih

theorem Passes.until (h : Passes settings start w₀ log now w) : ∀ x ∈ log, x.1 ≤ now := by
  induction h with
  | refl => nofun
  | act _ _ _ ih => exact List.forall_mem_cons.mpr ⟨Nat.le_refl _, ih⟩
  | wait _ hl _ ih => exact fun x hx => Nat.le_trans (ih x hx) (Nat.le_of_lt hl)

/-- The instants of the requests for a token. -/
def requestTimes (log : List (Instant × Event S)) : List Instant :=
  (log.filter fun x => x.2.asks).map (·.1)

theorem requestTimes_cons_of_asks (h : e.asks) :
    requestTimes ((now, e) :: log) = now :: requestTimes log := by
  simp [requestTimes, h]

theorem requestTimes_cons_of_not_asks (h : e.asks = false) :
    requestTimes ((now, e) :: log) = requestTimes log := by
  simp [requestTimes, h]

theorem requestTimes_append : requestTimes (mid ++ log) = requestTimes mid ++ requestTimes log := by
  simp [requestTimes]

/-! ## One step -/

/-- A login that succeeds does so in a task that waits for the provider. -/
theorem Step.moves_of_issued (h : Step settings w e w')
    (hi : e.issued? = some token) : ∃ i c now draw,
      e = .moved i (.token (.issued token)) now draw ∧ w.tasks[i]? = some (.requesting c) ∧
        w'.tasks[i]? = some .finished ∧ w'.session = w.session.succeed settings now token := by
  cases e with
  | moved i input now draw =>
    cases input with
    | token r =>
      cases r with
      | issued token' =>
        obtain rfl : token' = token := Option.some.inj hi
        obtain ⟨stage, stage', h₀, h₁, hm⟩ := h.moves
        generalize w'.session = s' at hm ⊢
        cases hm with
        | issued => exact ⟨i, _, now, draw, rfl, h₀, h₁, rfl⟩
      | refused => cases hi
      | failed => cases hi
    | _ => cases hi
  | _ => cases hi

/-! ## Beside the session's own tasks -/

/-- All tasks but some come to nothing, or are pings. -/
def Calm (alone : Nat → Prop) (p : Prop) (w : Traffic S) : Prop :=
  ∀ i stage, ¬ alone i → w.tasks[i]? = some stage → stage.IsStale w.session ∨ p ∧ stage.isPing

/-- What is left alone by an event that has nothing to do with a login. -/
structure Aside (now : Instant) (w : Traffic S) (e : Event S) (w' : Traffic S) : Prop where
  login : w'.session.login = w.session.login
  timer : ∀ kind, w'.session.timer kind = w.session.timer kind
  refreshed : w'.session.lastRefresh = w.session.lastRefresh
  used : (w'.session.lastUse = w.session.lastUse ∧ ∀ x, e ≠ .used x) ∨
    (w'.session.lastUse = some now ∧ e = .used now)
  unasked : e.asks = false

theorem Aside.of_eq (hs : w'.session = w.session) (hu : ∀ x, e ≠ .used x) (ha : e.asks = false) :
    Aside now w e w' :=
  ⟨by rw [hs], fun kind => by rw [hs], by rw [hs], .inl ⟨by rw [hs], hu⟩, ha⟩

/-- A task that comes to nothing, or a ping that is turned away, takes a step. -/
theorem Step.aside_of_moved {i : Nat} {input : Input} {draw : Float}
    (h : Step settings w (.moved i input now draw) w') (hc : Calm alone p w) (hi : ¬ alone i)
    (hn : w.session.state.needsLogin = false) :
    Calm alone p w' ∧ Aside now w (.moved i input now draw) w' := by
  obtain ⟨stage, stage', h₀, h₁, hm⟩ := h.moves
  have hsame : w'.session = w.session ∧ (stage'.IsStale w.session ∨ p ∧ stage'.isPing) := by
    rcases hc i stage hi h₀ with hst | ⟨hp, hping⟩
    · obtain ⟨hs, hst'⟩ := hm.isStale hst
      exact ⟨hs, .inl hst'⟩
    · obtain ⟨hs, hping' | ⟨-, hneeds⟩ | rfl⟩ := hm.isPing hping
      · exact ⟨hs, .inr ⟨hp, hping'⟩⟩
      · rw [hn] at hneeds
        cases hneeds
      · exact ⟨hs, .inl trivial⟩
  obtain ⟨hs, hst'⟩ := hsame
  refine ⟨fun j stage₁ hj hj₁ => ?_, .of_eq hs nofun ?_⟩
  · rw [hs]
    rcases h.task_before hj₁ with hb | ⟨_, _, _, _, he, -, -⟩ | ⟨_, he, -, -⟩ | ⟨_, he, -, -⟩
    · exact hc j stage₁ hj hb
    · cases he
      obtain rfl := Option.some.inj (h₁.symm.trans hj₁)
      exact hst'
    · cases he
    · cases he
  · -- who asks for a token reads a source, and is neither
    refine Bool.eq_false_iff.mpr fun ha => ?_
    generalize w'.session = s' at hm
    cases hm with
    | supplied _ => rcases hc i _ hi h₀ with hst | ⟨-, hping⟩ <;> contradiction
    | unconfigured hz =>
      have hz' : (!Credential.isZero _) = true := ha
      rw [hz] at hz'
      cases hz'
    | _ => cases ha

theorem calm_of_same (hs : ∀ kind, w'.session.timer kind = w.session.timer kind)
    (ht : w'.tasks = w.tasks) (hc : Calm alone p w) : Calm alone p w' := by
  intro i stage hi h
  rw [ht] at h
  exact (hc i stage hi h).imp_left fun hst => hst.mono fun kind => Nat.le_of_eq (by rw [hs kind])

/-- As long as no timer goes off, nothing but the session's own tasks matters. -/
theorem Step.aside (h : Step settings w e w') (ht : e.Timely settings now w)
    (hc : Calm alone p w) (hn : w.session.state.needsLogin = false)
    (hk : ∀ kind, e ≠ .wentOff kind) (hm : ∀ i, alone i → ¬ e.isMoveOf i)
    (hp : p ∨ e = .called .ping → p') : Calm alone p' w' ∧ Aside now w e w' := by
  have hc' : Calm alone p' w := fun i stage hi hs =>
    (hc i stage hi hs).imp_right fun ⟨h, hping⟩ => ⟨hp (.inl h), hping⟩
  cases ht with
  | pinged =>
    refine ⟨fun i stage hi hs => ?_, ?_⟩
    · have hses : w'.session = w.session := by cases h; rfl
      rw [hses]
      rcases h.task_before hs with hb | ⟨_, _, _, _, he, -, -⟩ | ⟨_, he, -, rfl⟩ | ⟨_, he, -, -⟩
      · exact hc' i stage hi hb
      · cases he
      · cases he
        exact .inr ⟨hp (.inr rfl), rfl⟩
      · cases he
    · cases h
      exact .of_eq rfl nofun rfl
  | replaced =>
    cases h
    have hs := w.session.timer_replaceSource
    exact ⟨calm_of_same (hs _) rfl hc', rfl, hs _, rfl, .inl ⟨rfl, nofun⟩, rfl⟩
  | used =>
    cases h
    have hs := w.session.timer_use now
    exact ⟨calm_of_same hs rfl hc', rfl, hs, rfl, .inr ⟨rfl, rfl⟩, rfl⟩
  | wentOff _ => exact absurd rfl (hk _)
  | @moved i input draw _ =>
    exact h.aside_of_moved hc' (fun hi => hm i hi ⟨input, now, draw, rfl⟩) hn

/-- A timer that goes off starts a task of its own. -/
theorem Step.calm_of_wentOff {kind : TimerKind} (h : Step settings w (.wentOff kind) w')
    (hc : Calm (fun _ => False) p w) : Calm (· = w.tasks.length) p w' := by
  intro i stage hi hs
  rcases h.task_before hs with hb | ⟨_, _, _, _, he, -, -⟩ | ⟨_, he, -, -⟩ | ⟨_, -, hl, -⟩
  · exact (hc i stage id hb).imp_left (·.mono h.generation_le)
  · cases he
  · cases he
  · exact absurd hl hi

theorem Step.session_of_wentOff {kind : TimerKind} (h : Step settings w (.wentOff kind) w') :
    w'.session = w.session.fire kind := by
  cases h
  rfl

/-! ## While nobody is logged in -/

/-- All tasks come to nothing, or may log in. -/
def Open (p : Prop) (w : Traffic S) : Prop :=
  ∀ (i : Nat) (stage : Stage S), w.tasks[i]? = some stage →
    stage.IsStale w.session ∨ p ∧ stage.IsOpen w.session

theorem Calm.isOpen (h : Calm (fun _ => False) p w) : Open p w := fun i stage hs =>
  (h i stage id hs).imp_right fun ⟨hp, hping⟩ => ⟨hp, .inr (.inl hping)⟩

theorem open_of_same
    (hs : ∀ kind, (w'.session.timer kind).generation = (w.session.timer kind).generation)
    (ht : w'.tasks = w.tasks) (ho : Open p w) : Open p w' := by
  intro i stage h
  rw [ht] at h
  exact (ho i stage h).imp (·.mono fun kind => Nat.le_of_eq (hs kind).symm)
    (And.imp_right (·.of_same hs))

/-- An accepted step of a task brings no token, unless it is a login. -/
theorem Event.not_issued {i : Nat} {input : Input} {draw : Float}
    (hn : (Event.moved i input now draw : Event S).issued? = none) (token : IssuedToken) :
    input ≠ .token (.issued token) := by
  rintro rfl
  cases hn

/-- As long as no timer goes off and no login succeeds, the login and the timers stay. -/
theorem Step.beside (h : Step settings w e w') (ht : e.Timely settings now w) (ho : Open p w)
    (hn : e.issued? = none) (hk : ∀ kind, e ≠ .wentOff kind) (hp : p ∨ e = .called .ping → p') :
    Open p' w' ∧ w'.session.login = w.session.login ∧
      (∀ kind, w'.session.timer kind = w.session.timer kind) ∧ (e.asks → p) := by
  have ho' : Open p' w := fun i stage hs =>
    (ho i stage hs).imp_right fun ⟨h, hopen⟩ => ⟨hp (.inl h), hopen⟩
  cases ht with
  | pinged =>
    have hses : w'.session = w.session := by cases h; rfl
    refine ⟨fun i stage hs => ?_, by rw [hses], fun _ => by rw [hses], nofun⟩
    rw [hses]
    rcases h.task_before hs with hb | ⟨_, _, _, _, he, -, -⟩ | ⟨_, he, -, rfl⟩ | ⟨_, he, -, -⟩
    · exact ho' i stage hb
    · cases he
    · cases he
      exact .inr ⟨hp (.inr rfl), .inr (.inl rfl)⟩
    · cases he
  | replaced =>
    cases h
    exact ⟨open_of_same (by simp) rfl ho', rfl, by simp, nofun⟩
  | used =>
    cases h
    exact ⟨open_of_same (by simp) rfl ho', rfl, by simp, nofun⟩
  | wentOff _ => exact absurd rfl (hk _)
  | @moved i input draw hacc =>
    obtain ⟨stage, stage', h₀, h₁, hm⟩ := h.moves
    have hsame : w'.session = w.session ∧ (stage'.IsStale w.session ∨ p ∧ stage'.IsOpen w.session) := by
      rcases ho i stage h₀ with hst | ⟨hp, hopen⟩
      · exact (hm.isStale hst).imp_right .inl
      · exact (hm.isOpen hopen hacc (Event.not_issued hn)).imp_right fun hopen' => .inr ⟨hp, hopen'⟩
    obtain ⟨hs, hst'⟩ := hsame
    refine ⟨fun j stage₁ hj => ?_, by rw [hs], fun _ => by rw [hs], fun ha => ?_⟩
    · rw [hs]
      rcases h.task_before hj with hb | ⟨_, _, _, _, he, -, -⟩ | ⟨_, he, -, -⟩ | ⟨_, he, -, -⟩
      · exact ho' j stage₁ hb
      · cases he
        obtain rfl := Option.some.inj (h₁.symm.trans hj)
        exact hst'.imp_right fun ⟨h, hopen⟩ => ⟨hp (.inl h), hopen⟩
      · cases he
      · cases he
    · -- who asks for a token reads a source
      obtain ⟨j, source, _, hj, -⟩ := h.asks ha
      rcases ho j _ hj with hst | ⟨hp, -⟩
      · cases hst
      · exact hp

/-- A login leaves everybody else with nothing to do. -/
theorem Step.calm_of_issued (h : Step settings w e w') (hone : w.OneAtGate) (ho : Open True w)
    (hi : e.issued? = some token) : Calm (fun _ => False) True w' := by
  obtain ⟨i, c, x, draw, rfl, hi₀, hi₁, hw⟩ := h.moves_of_issued hi
  intro j stage _ hj
  rcases h.task_before hj with hb | ⟨_, _, _, _, he, -, -⟩ | ⟨_, he, -, -⟩ | ⟨_, he, -, -⟩
  · rcases ho j stage hb with hst | ⟨-, hst | hping | hretry | hatt⟩
    · exact .inl (hst.mono h.generation_le)
    · exact .inl (hst.mono h.generation_le)
    · exact .inr ⟨trivial, hping⟩
    · -- the login has cancelled the retry
      refine .inl (Stage.isStale_of_armedBy (Stage.armedBy_of_isRetry hretry) ?_)
      rw [hw]
      exact Nat.lt_succ_self _
    · obtain rfl := hone i j _ _ hi₀ hb rfl (Stage.holdsGate_of_isAttempt hatt)
      obtain rfl := Option.some.inj (hi₁.symm.trans hj)
      exact .inl trivial
  · cases he
    obtain rfl := Option.some.inj (hi₁.symm.trans hj)
    exact .inl trivial
  · cases he
  · cases he

end Traffic

end ClusterOperator.Provider
