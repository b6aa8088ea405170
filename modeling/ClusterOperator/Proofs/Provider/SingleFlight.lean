import ClusterOperator.Proofs.Provider.Gate
import ClusterOperator.Proofs.Provider.Pursuit

/-!
# One login for all who ask

Whatever goes on at a session, one token at a time is asked for, by a ping only if
it is needed and by a retry only if it was not replaced. So however many pings come
upon a new session, they and its first planned login ask for one token.
-/

namespace ClusterOperator.Provider

variable {S : Type}

/-- What a task can be at before any timer but the first went off. -/
def Stage.isEarly (g : Nat) (stage : Stage S) : Prop :=
  stage.isPing ∨ stage.isRetry g ∨ stage.isAttempt ∨ stage = .finished

theorem Stage.Moves.isEarly {settings : SessionSettings} {now : Instant} {draw : Float}
    {gateFree : Bool} {s s' : Session S} {stage stage' : Stage S} {input : Input} {g : Nat}
    (h : Stage.Moves settings now draw gateFree s stage input s' stage') (he : stage.isEarly g) :
    stage'.isEarly g := by
  rcases he with hp | hr | ha | rfl
  · obtain ⟨-, hp' | ⟨rfl, -⟩ | rfl⟩ := h.isPing hp
    · exact .inl hp'
    · exact .inr (.inr (.inl rfl))
    · exact .inr (.inr (.inr rfl))
  · obtain ⟨-, hr' | ⟨rfl, -⟩ | rfl⟩ := h.isRetry hr
    · exact .inr (.inl hr')
    · exact .inr (.inr (.inl rfl))
    · exact .inr (.inr (.inr rfl))
  · rcases h.isAttempt ha with ⟨ha', -⟩ | rfl
    · exact .inr (.inr (.inl ha'))
    · exact .inr (.inr (.inr rfl))
  · cases h

/-- When no login is needed and the first timer was replaced, nobody gets past the last look. -/
theorem Stage.Moves.turnedAway {settings : SessionSettings} {now : Instant} {draw : Float}
    {gateFree : Bool} {s s' : Session S} {stage stage' : Stage S} {input : Input} {g : Nat}
    (h : Stage.Moves settings now draw gateFree s stage input s' stage') (he : stage.isEarly g)
    (ha : stage.isAttempt = false) (hn : s.state.needsLogin = false) (hg : s.retry.generation ≠ g) :
    s' = s ∧ stage'.isAttempt = false := by
  rcases he with hp | hr | ha' | rfl
  · obtain ⟨hs, hp' | ⟨-, hn'⟩ | rfl⟩ := h.isPing hp
    · exact ⟨hs, Stage.not_isAttempt_of_isPing hp'⟩
    · rw [hn] at hn'
      cases hn'
    · exact ⟨hs, rfl⟩
  · obtain ⟨hs, hr' | ⟨-, hg'⟩ | rfl⟩ := h.isRetry hr
    · exact ⟨hs, Stage.not_isAttempt_of_isRetry hr'⟩
    · exact absurd hg' hg
    · exact ⟨hs, rfl⟩
  · rw [ha] at ha'
    cases ha'
  · cases h

namespace Traffic

variable {settings : SessionSettings} {u w w' : Traffic S} {e : Event S} {past mid : List (Event S)}

/-! ## Pings at a new session -/

/-- Pings come, tasks go on, and the only timer that goes off is the one that the session
was opened with. -/
inductive Early (s : Session S) (w : Traffic S) : Event S → Prop
  | pinged : Early s w (.called .ping)
  | wentOff : w.session.retry.generation = s.retry.generation → Early s w (.wentOff .retry)
  | moved {i : Nat} {input : Input} {now : Instant} {draw : Float} : Early s w (.moved i input now draw)

variable (settings) in
inductive Rush (s : Session S) : List (Event S) → Traffic S → Prop
  | refl : Rush s [] (.start s)
  | step {past : List (Event S)} {w w' : Traffic S} {e : Event S} : Rush s past w →
    Step settings w e w' → Early s w e → Rush s (e :: past) w'

variable {s : Session S}

theorem Rush.runs (h : Rush settings s past w) : Runs settings (.start s) past w := by
  induction h with
  | refl => exact .refl
  | step _ hs _ ih => exact ih.step hs

theorem Rush.isEarly (h : Rush settings s past w) {i : Nat} {stage : Stage S}
    (hi : w.tasks[i]? = some stage) : stage.isEarly s.retry.generation := by
  induction h generalizing i stage with
  | refl => cases hi
  | step _ hs he ih =>
    rcases hs.task_before hi with hi' | ⟨_, _, _, _, -, hi', hm⟩ | ⟨c, rfl, -, rfl⟩ | ⟨kind, rfl, -, rfl⟩
    · exact ih hi'
    · exact hm.isEarly (ih hi')
    · cases he with
      | pinged => exact .inl rfl
    · cases he with
      | wentOff hg => exact .inr (.inl (decide_eq_true hg))

/-! ## Requests -/

/-- The source's answer, with which the provider is asked for a token. -/
def Event.asks : Event S → Bool
  | .moved _ (.credential (.ok c)) _ _ => !c.isZero
  | _ => false

/-- An attempt ends for want of a credential. -/
def Event.lacks (e : Event S) : Prop :=
  ∃ i r now draw, e = .moved i (.credential r) now draw ∧ Useless r

/-- Nobody is at it any more. -/
def Settled (w : Traffic S) : Prop := ∀ stage ∈ w.tasks, stage = .finished

def requests (past : List (Event S)) : Nat := past.countP Event.asks

theorem requests_cons_of_asks (h : e.asks) : requests (e :: past) = requests past + 1 :=
  List.countP_cons_of_pos h

theorem requests_cons_of_not_asks (h : e.asks = false) : requests (e :: past) = requests past :=
  List.countP_cons_of_neg (by rw [h]; nofun)

theorem Event.lacks_of_fails (hf : e.fails) (ha : e.answer? = none) : e.lacks := by
  cases e with
  | moved i input now draw =>
    cases input with
    | none => cases hf
    | credential r =>
      cases r with
      | ok c => exact ⟨i, _, now, draw, rfl, hf⟩
      | error _ => exact ⟨i, _, now, draw, rfl, trivial⟩
    | token r => cases ha
  | _ => cases hf

theorem Step.asks (h : Step settings w e w') (ha : e.asks) :
    ∃ (i : Nat) (source : S) (c : Credential),
      w.tasks[i]? = some (.reading source) ∧ w'.tasks[i]? = some (.requesting c) := by
  cases e with
  | moved i input now draw =>
    obtain ⟨stage, stage', hi, hi', hm⟩ := h.moves
    generalize w'.session = s' at hm
    cases hm with
    | supplied _ => exact ⟨i, _, _, hi, hi'⟩
    | unconfigured hz =>
      have hz' : (!Credential.isZero _) = true := ha
      rw [hz] at hz'
      cases hz'
    | _ => cases ha
  | _ => cases ha

theorem Step.requesting_before (h : Step settings w e w') {i : Nat} {c : Credential}
    (hi : w'.tasks[i]? = some (.requesting c)) : w.tasks[i]? = some (.requesting c) ∨ e.asks := by
  rcases h.task_before hi with hi' | ⟨_, _, _, _, rfl, -, hm⟩ | ⟨call, -, -, hc⟩ | ⟨_, -, -, hc⟩
  · exact .inl hi'
  · generalize w'.session = s' at hm
    generalize hr : Stage.requesting c = stage' at hm
    cases hm with
    | supplied hz => exact .inr (by simp [Event.asks, hz])
    | @detached kind _ _ => cases kind <;> cases hr
    | _ => cases hr
  · cases call <;> cases hc
  · cases hc

theorem Step.requesting_of_answer (h : Step settings w e w') {r : TokenAnswer}
    (ha : e.answer? = some r) :
    ∃ (i : Nat) (c : Credential), w.tasks[i]? = some (.requesting c) := by
  cases e with
  | moved i input now draw =>
    cases input with
    | token r' =>
      obtain ⟨stage, stage', hi, -, hm⟩ := h.moves
      generalize w'.session = s' at hm
      cases hm <;> exact ⟨i, _, hi⟩
    | _ => cases ha
  | _ => cases ha

/-! ## How far they get -/

/-- Nobody has asked for a token yet, or one task waits for it, or the provider has answered
and nobody wants to log in any more. -/
inductive Progress (s : Session S) (past : List (Event S)) (w : Traffic S) : Prop
  | unasked : w.session.state = .unstarted → requests past = 0 →
    (∀ (i : Nat) (c : Credential), ¬ w.tasks[i]? = some (.requesting c)) →
    ((∀ e ∈ past, ¬ e.lacks) → w.session.retry.generation = s.retry.generation ∧
      ∀ i : Nat, ¬ w.tasks[i]? = some .finished) → Progress s past w
  | asking {i : Nat} {c : Credential} : w.session.state = .unstarted → requests past = 1 →
    w.tasks[i]? = some (.requesting c) → Progress s past w
  | answered : w.session.state.needsLogin = false → requests past = 1 →
    s.retry.generation < w.session.retry.generation →
    (∀ (i : Nat) (stage : Stage S), w.tasks[i]? = some stage → stage.isAttempt = false) →
    Progress s past w

theorem Early.not_planned (he : Early s w e) (due : Instant) : e ≠ .planned due := by
  cases he <;> nofun

/-- As long as a login is needed and the first retry was not replaced, tasks end by an
attempt of their own. -/
theorem outcome_of_moves {gateFree : Bool} {s s' : Session S} {stage stage' : Stage S} {i : Nat}
    {input : Input} {now : Instant} {draw : Float}
    (h : Stage.Moves settings now draw gateFree s stage input s' stage') (hf : stage' = .finished)
    (he : stage.isEarly s.retry.generation) (hn : s.state.needsLogin) :
    (Event.moved i input now draw : Event S).fails ∨
      (Event.moved i input now draw : Event S).succeeds := by
  unfold Stage.isEarly at he
  cases h with
  | unwanted hu =>
    rw [hn] at hu
    cases hu
  | @outdated kind g hg =>
    cases kind <;> simp [Stage.isPing, Stage.isRetry, Stage.isAttempt] at he
    exact absurd he.symm hg
  | idle _ => simp [Stage.isPing, Stage.isRetry, Stage.isAttempt] at he
  | expired => simp [Stage.isPing, Stage.isRetry, Stage.isAttempt] at he
  | @superseded entry hw =>
    cases entry with
    | ping =>
      have hw' : s.state.needsLogin = false := hw
      rw [hn] at hw'
      cases hw'
    | login => cases hw
    | retry g =>
      simp [Stage.isPing, Stage.isRetry, Stage.isAttempt] at he
      exact absurd he.symm (of_decide_eq_false hw)
  | unconfigured hz => exact .inl hz
  | unread => exact .inl rfl
  | issued => exact .inr rfl
  | refused => exact .inl rfl
  | failed => exact .inl rfl
  | @detached kind _ _ => cases kind <;> cases hf
  | _ => cases hf

theorem Step.outcome_of_finished (h : Step settings w e w') {i : Nat}
    (hi : w'.tasks[i]? = some .finished) (hb : ¬ w.tasks[i]? = some .finished)
    (he : ∀ stage, w.tasks[i]? = some stage → stage.isEarly w.session.retry.generation)
    (hn : w.session.state.needsLogin) : e.fails ∨ e.succeeds := by
  rcases h.task_before hi with hi' | ⟨_, _, _, stage, rfl, hi', hm⟩ | ⟨c, -, -, hc⟩ | ⟨kind, -, -, hc⟩
  · exact absurd hi' hb
  · exact outcome_of_moves hm rfl (he stage hi') hn
  · cases c <;> cases hc
  · cases hc

theorem Step.progress_unasked (hr : Rush settings s past w) (h : Step settings w e w')
    (he : Early s w e) (hu : w.session.state = .unstarted) (h₀ : requests past = 0)
    (hnone : ∀ (i : Nat) (c : Credential), ¬ w.tasks[i]? = some (.requesting c))
    (hfirst : (∀ e ∈ past, ¬ e.lacks) → w.session.retry.generation = s.retry.generation ∧
      ∀ i : Nat, ¬ w.tasks[i]? = some .finished) : Progress s (e :: past) w' := by
  have ha : e.answer? = none := by
    refine Option.eq_none_iff_forall_ne_some.mpr fun r ha => ?_
    obtain ⟨i, c, hi⟩ := h.requesting_of_answer ha
    exact hnone i c hi
  have hu' : w'.session.state = .unstarted := by
    rw [h.state_kept ha (by rw [hu]; nofun), hu]
  by_cases hk : e.asks
  · obtain ⟨i, _, c, -, hi⟩ := h.asks hk
    exact .asking hu' (by rw [requests_cons_of_asks hk, h₀]) hi
  · refine .unasked hu' (by rw [requests_cons_of_not_asks (Bool.eq_false_iff.mpr hk), h₀]) ?_ ?_
    · intro i c hi
      rcases h.requesting_before hi with hi' | hk'
      · exact hnone i c hi'
      · exact hk hk'
    · intro hl
      obtain ⟨hg, hfin⟩ := hfirst fun e hm => hl e (List.mem_cons_of_mem _ hm)
      have hf : e.fails = false := Bool.eq_false_iff.mpr fun hf =>
        hl e List.mem_cons_self (Event.lacks_of_fails hf ha)
      have hs : e.succeeds = false := Event.not_succeeds_of_answer fun token ht => by
        rw [ha] at ht
        cases ht
      refine ⟨by rw [h.retry_kept hf hs he.not_planned, hg], fun i hi => ?_⟩
      have ho := h.outcome_of_finished hi (hfin i) (fun stage hi => hg ▸ hr.isEarly hi)
        (by rw [hu]; rfl)
      rw [hf, hs] at ho
      simp at ho

theorem Step.not_asks (h : Step settings w e w')
    (hn : ∀ (i : Nat) (source : S), ¬ w.tasks[i]? = some (.reading source)) : e.asks = false := by
  refine Bool.eq_false_iff.mpr fun hk => ?_
  obtain ⟨i, source, _, hi, -⟩ := h.asks hk
  exact hn i source hi

/-- A judgement ends the login that was needed, and calls off the timer. -/
theorem Step.judged (h : Step settings w e w') {i : Nat} {c : Credential} (he : e.isMoveOf i)
    (hi : w.tasks[i]? = some (.requesting c)) (hf : e.answer? ≠ some .failed) :
    w'.session.state.needsLogin = false ∧ w'.tasks[i]? = some .finished ∧
      w'.session.retry.generation = w.session.retry.generation + 1 := by
  obtain ⟨input, now, draw, rfl⟩ := he
  obtain ⟨stage, stage', hi₀, hi', hm⟩ := h.moves
  obtain rfl := Option.some.inj (hi.symm.trans hi₀)
  generalize w'.session = s' at hm ⊢
  cases hm with
  | issued => exact ⟨rfl, hi', rfl⟩
  | refused => exact ⟨rfl, hi', rfl⟩
  | failed => exact absurd rfl hf

/-- If the one task at the gate leaves it, nobody is at it. -/
theorem Step.gate_left (h : Step settings w e w') (hw : w.OneAtGate) {i : Nat} {stage : Stage S}
    (hi : w.tasks[i]? = some stage) (hg : stage.holdsGate) (hi' : w'.tasks[i]? = some .finished)
    {j : Nat} {stage' : Stage S} (hj : w'.tasks[j]? = some stage') : stage'.holdsGate = false := by
  refine Bool.eq_false_iff.mpr fun hg' => ?_
  rcases h.gate_before hj hg' with ⟨stage₀, hj₀, hg₀⟩ | ⟨hfree, -⟩
  · obtain rfl := hw i j stage stage₀ hi hj₀ hg hg₀
    obtain rfl := Option.some.inj (hi'.symm.trans hj)
    cases hg'
  · rw [not_holdsGate_of_free hfree hi] at hg
    cases hg

theorem Step.progress_asking (hr : Rush settings s past w) (h : Step settings w e w')
    (hfail : e.answer? ≠ some .failed) {i : Nat} {c : Credential}
    (hu : w.session.state = .unstarted) (h₁ : requests past = 1)
    (hi : w.tasks[i]? = some (.requesting c)) : Progress s (e :: past) w' := by
  have hgate := oneAtGate_of_runs hr.runs
  have hk : e.asks = false := h.not_asks fun j source hj => by
    obtain rfl := hgate i j _ _ hi hj rfl rfl
    cases hi.symm.trans hj
  have h₁' : requests (e :: past) = 1 := by rw [requests_cons_of_not_asks hk, h₁]
  by_cases he : e.isMoveOf i
  · obtain ⟨hn, hi', hg⟩ := h.judged he hi hfail
    refine .answered hn h₁' ?_ ?_
    · have hle : s.retry.generation ≤ w.session.retry.generation :=
        (hr.runs.generation_between .retry).1
      rw [hg]
      exact Nat.lt_succ_of_le hle
    · intro j stage hj
      have hout := h.gate_left hgate hi rfl hi' hj
      exact Bool.eq_false_iff.mpr fun ha => by
        rw [Stage.holdsGate_of_isAttempt ha] at hout
        cases hout
  · obtain ⟨hf, hs⟩ := h.no_outcome hgate hi rfl he
    refine .asking ?_ h₁' (h.task_kept he hi)
    rw [h.state_kept (Event.answer_eq_none hf hs) (by rw [hu]; nofun), hu]

/-- Once the provider has answered, the tasks that are left end at their last look. -/
theorem Early.idle (he : Early s w e) (h : Step settings w e w')
    (hearly : ∀ (i : Nat) (stage : Stage S), w.tasks[i]? = some stage → stage.isEarly s.retry.generation)
    (hn : w.session.state.needsLogin = false)
    (hg : s.retry.generation < w.session.retry.generation)
    (hidle : ∀ (i : Nat) (stage : Stage S), w.tasks[i]? = some stage → stage.isAttempt = false) :
    w'.session = w.session ∧
      ∀ (i : Nat) (stage : Stage S), w'.tasks[i]? = some stage → stage.isAttempt = false := by
  have hne : w.session.retry.generation ≠ s.retry.generation := (Nat.ne_of_lt hg).symm
  cases he with
  | pinged =>
    refine ⟨by cases h; rfl, fun i stage hi => ?_⟩
    rcases h.task_before hi with hi' | ⟨_, _, _, _, he, -, -⟩ | ⟨_, he, -, rfl⟩ | ⟨_, he, -, -⟩
    · exact hidle i stage hi'
    · cases he
    · cases he
      rfl
    · cases he
  | wentOff hw => exact absurd hw hne
  | moved =>
    obtain ⟨stage₀, _, hi₀, -, hm₀⟩ := h.moves
    refine ⟨(hm₀.turnedAway (hearly _ _ hi₀) (hidle _ _ hi₀) hn hne).1, fun i stage hi => ?_⟩
    rcases h.task_before hi with hi' | ⟨_, _, _, _, -, hi', hm⟩ | ⟨_, he, -, -⟩ | ⟨_, he, -, -⟩
    · exact hidle i stage hi'
    · exact (hm.turnedAway (hearly _ _ hi') (hidle _ _ hi') hn hne).2
    · cases he
    · cases he

theorem Step.progress_answered (hr : Rush settings s past w) (h : Step settings w e w')
    (he : Early s w e) (hn : w.session.state.needsLogin = false) (h₁ : requests past = 1)
    (hg : s.retry.generation < w.session.retry.generation)
    (hidle : ∀ (i : Nat) (stage : Stage S), w.tasks[i]? = some stage → stage.isAttempt = false) :
    Progress s (e :: past) w' := by
  have hk : e.asks = false := h.not_asks fun i source hi => by cases hidle i _ hi
  obtain ⟨hs, hidle'⟩ := he.idle h (fun i stage hi => hr.isEarly hi) hn hg hidle
  refine .answered ?_ ?_ ?_ hidle'
  · rw [hs, hn]
  · rw [requests_cons_of_not_asks hk, h₁]
  · rw [hs]
    exact hg

theorem progress_of_rush (hu : s.state = .unstarted) (h : Rush settings s past w)
    (hf : ∀ e ∈ past, e.answer? ≠ some .failed) : Progress s past w := by
  induction h with
  | refl => exact .unasked hu rfl nofun fun _ => ⟨rfl, nofun⟩
  | @step past w w' e hr hs he ih =>
    cases ih fun e hm => hf e (List.mem_cons_of_mem _ hm) with
    | unasked hu h₀ hnone hfirst => exact hs.progress_unasked hr he hu h₀ hnone hfirst
    | asking hu h₁ hi => exact hs.progress_asking hr (hf e List.mem_cons_self) hu h₁ hi
    | answered hn h₁ hg hidle => exact hs.progress_answered hr he hn h₁ hg hidle

theorem Progress.requests_le (h : Progress s past w) : requests past ≤ 1 := by
  cases h with
  | unasked _ h₀ _ _ => exact h₀ ▸ Nat.zero_le 1
  | asking _ h₁ _ => exact Nat.le_of_eq h₁
  | answered _ h₁ _ _ => exact Nat.le_of_eq h₁

theorem Progress.requests_eq (h : Progress s past w) (hl : ∀ e ∈ past, ¬ e.lacks)
    (hne : w.tasks ≠ []) (hfin : w.Settled) : requests past = 1 := by
  cases h with
  | unasked _ _ _ hfirst =>
    have hlt : 0 < w.tasks.length := List.length_pos_iff.mpr hne
    have h₀ : w.tasks[0]? = some .finished := by
      rw [List.getElem?_eq_getElem hlt, hfin _ (List.getElem_mem hlt)]
    exact absurd h₀ ((hfirst hl).2 0)
  | asking _ h₁ _ => exact h₁
  | answered _ h₁ _ _ => exact h₁

/-! ## Nobody is left at the gate -/

/-- A task that is not held up at the gate has a step, and no failure forces it. -/
theorem exists_step {gateFree : Bool} (settings : SessionSettings) (s : Session S) {stage : Stage S}
    (hs : stage ≠ .finished) (hg : gateFree ∨ stage.holdsGate) :
    ∃ input s' stage', Stage.step? settings 0 0 gateFree s stage input = some (s', stage') ∧
      ∀ i, ¬ (Event.moved i input 0 0 : Event S).lacks ∧
        (Event.moved i input 0 0 : Event S).answer? ≠ some .failed := by
  cases stage with
  | waiting entry =>
    have hfree : gateFree := hg.resolve_right nofun
    exact ⟨.none, s, .entered entry, by simp [Stage.step?, hfree], fun _ => ⟨nofun, nofun⟩⟩
  | reading source =>
    refine ⟨.credential (.ok ⟨"key", "secret"⟩), _, _, rfl, fun i => ⟨?_, nofun⟩⟩
    rintro ⟨_, _, _, _, he, hl⟩
    cases he
    cases hl
  | requesting c => exact ⟨.token .refused, _, _, rfl, fun _ => ⟨nofun, nofun⟩⟩
  | finished => exact absurd rfl hs
  | _ => exact ⟨.none, _, _, rfl, fun _ => ⟨nofun, nofun⟩⟩

/-- As long as a task is left, one of them can go on. -/
theorem exists_move (settings : SessionSettings) (s : Session S) (hw : ¬ w.Settled) :
    ∃ e w', Step settings w e w' ∧ Early s w e ∧ ¬ e.lacks ∧ e.answer? ≠ some .failed := by
  by_cases hfree : w.gateFree
  · have hleft : ∃ stage ∈ w.tasks, stage ≠ .finished := by simpa [Settled] using hw
    obtain ⟨stage, hm, hs⟩ := hleft
    obtain ⟨i, hi⟩ := List.getElem?_of_mem hm
    obtain ⟨input, _, _, h, hn⟩ := exists_step settings w.session hs (.inl hfree)
    exact ⟨_, _, .moved hi h, .moved, hn i⟩
  · have hheld : ∃ stage ∈ w.tasks, stage.holdsGate := by simpa [gateFree] using hfree
    obtain ⟨stage, hm, hg⟩ := hheld
    obtain ⟨i, hi⟩ := List.getElem?_of_mem hm
    have hs : stage ≠ .finished := by
      rintro rfl
      cases hg
    obtain ⟨input, _, _, h, hn⟩ := exists_step settings w.session hs (.inr hg)
    exact ⟨_, _, .moved hi h, .moved, hn i⟩

/-! ## One at a time -/

theorem Runs.pinging (hw : u.OneAtGate) (h : Runs settings u mid w) {i : Nat} (hp : Pinging i u) :
    Pinging i w := by
  induction h with
  | refl => exact hp
  | step h hs ih => exact hs.pinging (h.oneAtGate hw) ih

theorem Runs.retrying (hw : u.OneAtGate) (h : Runs settings u mid w) {i g : Nat} {stage : Stage S}
    (hi : u.tasks[i]? = some stage) (hr : stage.isRetry g) : Retrying u i g mid w := by
  induction h with
  | refl => exact .before hi hr
  | step h hs ih => exact hs.retrying h (h.oneAtGate hw) ih

/-- A ping that asks for a token is one that is needed. -/
theorem needsLogin_of_requesting (hw : u.OneAtGate) (h : Runs settings u mid w) {i : Nat}
    {stage : Stage S} {c : Credential} (hi : u.tasks[i]? = some stage) (hp : stage.isPing)
    (hc : w.tasks[i]? = some (.requesting c)) : w.session.state.needsLogin := by
  cases h.pinging hw (.before hi hp) with
  | before hb hp' =>
    obtain rfl := Option.some.inj (hb.symm.trans hc)
    cases hp'
  | during _ _ hn => exact hn
  | done hf => cases hf.symm.trans hc

/-- A retry that asks for a token is one whose timer was not armed again. -/
theorem generation_of_requesting {s : Session S} (hu : Runs settings (.start s) past u)
    (h : Runs settings u mid w) {i g : Nat} {stage : Stage S} {c : Credential}
    (hi : u.tasks[i]? = some stage) (hr : stage.isRetry g)
    (hc : w.tasks[i]? = some (.requesting c)) :
    u.session.retry.generation = g ∧
      ((∀ due, .planned due ∉ mid) → w.session.retry.generation = g) := by
  cases h.retrying (oneAtGate_of_runs hu) hi hr with
  | before hb hr' =>
    obtain rfl := Option.some.inj (hb.symm.trans hc)
    cases hr'
  | during _ _ hle hg => exact ⟨Nat.le_antisymm hle (isRetry_le hu hi hr), hg⟩
  | done hf => cases hf.symm.trans hc

/-- Whatever goes on at a session, no two requests for a token are under way at once. A
ping asks for one only while a login is needed, a retry only if its timer was not armed
again or cancelled before its last look, nor after it unless somebody plans a login.
So while its first timer is the only one that goes off, a new session and any number of
pings ask at most once, and exactly once when all are done, if the credential is there and
the provider judges it; until then, one of them can go on. -/
theorem login_single_flight {s₀ : Session S} (hu : Runs settings (.start s₀) past u)
    (h : Runs settings u mid w) :
    (∀ (i j : Nat) (c d : Credential),
      w.tasks[i]? = some (.requesting c) → w.tasks[j]? = some (.requesting d) → i = j) ∧
    (∀ (i : Nat) (stage : Stage S) (c : Credential),
      u.tasks[i]? = some stage → w.tasks[i]? = some (.requesting c) →
      (stage.isPing → w.session.state.needsLogin) ∧
      ∀ g, stage.isRetry g → u.session.retry.generation = g ∧
        ((∀ due, .planned due ∉ mid) → w.session.retry.generation = g)) ∧
    ∀ (now : Instant) (endpoint : String) (source : S) (rush : List (Event S)) (w' : Traffic S),
      Rush settings (.opened settings now endpoint source) rush w' →
      (∀ e ∈ rush, e.answer? ≠ some .failed) →
      requests rush ≤ 1 ∧
      ((∀ e ∈ rush, ¬ e.lacks) → w'.tasks ≠ [] → w'.Settled → requests rush = 1) ∧
      (¬ w'.Settled → ∃ e w'', Step settings w' e w'' ∧
        Early (.opened settings now endpoint source) w' e ∧ ¬ e.lacks ∧ e.answer? ≠ some .failed) := by
  have hgate := oneAtGate_of_runs hu
  refine ⟨fun i j c d hi hj => h.oneAtGate hgate i j _ _ hi hj rfl rfl, ?_, ?_⟩
  · intro i stage c hi hc
    exact ⟨fun hp => needsLogin_of_requesting hgate h hi hp hc,
      fun g hr => generation_of_requesting hu h hi hr hc⟩
  · intro now endpoint source rush w' hrush hf
    have hp := progress_of_rush rfl hrush hf
    exact ⟨hp.requests_le, hp.requests_eq, exists_move settings _⟩

namespace Sample

/-- Two pings and the first retry of a new session come to the gate. -/
def crowding : List (Event Unit) :=
  [.moved 2 .none 0 0, .wentOff .retry, .moved 1 .none 0 0, .called .ping, .moved 0 .none 0 0,
    .called .ping]

def crowd (first : Stage Unit) : Traffic Unit :=
  ⟨planned.session.fire .retry, [first, .waiting .ping, .waiting (.retry 1)]⟩

theorem crowding_rush : Rush .start planned.session crowding (crowd (.waiting .ping)) := by
  have h : Rush .start planned.session
      [.moved 1 .none 0 0, .called .ping, .moved 0 .none 0 0, .called .ping]
      ⟨planned.session, [.waiting .ping, .waiting .ping]⟩ :=
    .step (.step (.step (.step .refl .called .pinged) (.moved rfl rfl) .moved) .called .pinged)
      (.moved rfl rfl) .moved
  exact .step (.step h (.wentOff rfl) (.wentOff rfl)) (.moved rfl rfl) .moved

/-- The first ping gets through and asks for the token. -/
def through : List (Event Unit) :=
  [.moved 0 (.credential (.ok ⟨"key", "secret"⟩)) 0 0, .moved 0 .none 0 0, .moved 0 .none 0 0,
    .moved 0 .none 0 0]

theorem through_rush : Rush .start planned.session (through ++ crowding)
    (crowd (.requesting ⟨"key", "secret"⟩)) :=
  .step (.step (.step (.step crowding_rush (.moved rfl rfl) .moved) (.moved rfl rfl) .moved)
    (.moved rfl rfl) .moved) (.moved rfl rfl) .moved

theorem refused_rush : Rush .start planned.session
    (.moved 0 (.token .refused) 0 0 :: (through ++ crowding))
    ⟨refused, [.finished, .waiting .ping, .waiting (.retry 1)]⟩ :=
  .step through_rush (.moved rfl rfl) .moved

/-- Its refusal leaves nothing to do for the others. -/
def rushing : List (Event Unit) :=
  [.moved 1 .none 0 0, .moved 1 .none 0 0, .moved 2 .none 0 0, .moved 2 .none 0 0,
    .moved 0 (.token .refused) 0 0] ++ (through ++ crowding)

theorem rushing_rush : Rush .start planned.session rushing
    ⟨refused, [.finished, .finished, .finished]⟩ := by
  have h : Rush .start planned.session
      (.moved 2 .none 0 0 :: .moved 2 .none 0 0 :: .moved 0 (.token .refused) 0 0 :: (through ++ crowding))
      ⟨refused, [.finished, .waiting .ping, .finished]⟩ :=
    .step (.step refused_rush (.moved rfl rfl) .moved) (.moved rfl rfl) .moved
  exact .step (.step h (.moved rfl rfl) .moved) (.moved rfl rfl) .moved

theorem through_runs : Runs .start (crowd (.waiting .ping)) through
    (crowd (.requesting ⟨"key", "secret"⟩)) :=
  .step (.step (.step (.step .refl (.moved rfl rfl)) (.moved rfl rfl)) (.moved rfl rfl)) (.moved rfl rfl)

end Sample

/-- Of two pings and a retry at the gate, one asks for a token, while it is needed. -/
theorem login_single_flight_crowd :
    (Sample.crowd (.requesting ⟨"key", "secret"⟩)).session.state.needsLogin ∧
      requests Sample.rushing = 1 := by
  obtain ⟨-, hping, hrush⟩ := login_single_flight Sample.crowding_rush.runs Sample.through_runs
  obtain ⟨-, hone, -⟩ := hrush 0 "https://api.example.com" () _ _ Sample.rushing_rush
    (by simp [Sample.rushing, Sample.through, Sample.crowding, Event.answer?])
  refine ⟨(hping 0 _ _ rfl rfl).1 rfl, hone ?_ nofun (by simp [Settled])⟩
  rintro e hm ⟨i, r, now, draw, rfl, hl⟩
  have hr : r = .ok ⟨"key", "secret"⟩ := by
    simp [Sample.rushing, Sample.through, Sample.crowding] at hm
    exact hm.2.1
  rw [hr] at hl
  cases hl

end Traffic

end ClusterOperator.Provider
