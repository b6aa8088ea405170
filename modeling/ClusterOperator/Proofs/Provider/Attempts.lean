import ClusterOperator.Proofs.Provider.Tokens

/-!
# Attempts to log in

An attempt runs from the last look at the gate to its answer. Only one task at a
time is past the gate, so what an attempt leaves of the retry timer and of the
count of failures is its own doing.
-/

namespace ClusterOperator.Provider

variable {S : Type}

/-- Whether a task is trying to log in. -/
def Stage.isAttempt : Stage S → Bool
  | .admitted | .reading _ | .requesting _ => true
  | _ => false

theorem Stage.holdsGate_of_isAttempt {stage : Stage S} (h : stage.isAttempt) : stage.holdsGate := by
  cases stage <;> first | rfl | cases h

namespace Traffic

variable {settings : SessionSettings} {w w' w₀ : Traffic S} {e : Event S} {past mid : List (Event S)}

theorem Runs.append {u : Traffic S} (hu : Runs settings w₀ past u) (h : Runs settings u mid w) :
    Runs settings w₀ (mid ++ past) w := by
  induction h with
  | refl => exact hu
  | step _ hs ih => exact ih.step hs

def Event.isMoveOf (i : Nat) (e : Event S) : Prop := ∃ input now draw, e = .moved i input now draw

theorem Step.task_kept (h : Step settings w e w') {i : Nat} (he : ¬ e.isMoveOf i)
    {stage : Stage S} (hi : w.tasks[i]? = some stage) : w'.tasks[i]? = some stage := by
  rcases h.task_cases hi with hi' | ⟨input, now, draw, _, rfl, -, -⟩
  · exact hi'
  · exact absurd ⟨input, now, draw, rfl⟩ he

/-- A task after a step was there before it, or made it, or was started in it. -/
theorem Step.task_before (h : Step settings w e w') {i : Nat} {stage' : Stage S}
    (hi : w'.tasks[i]? = some stage') : w.tasks[i]? = some stage' ∨
      (∃ input now draw stage, e = .moved i input now draw ∧ w.tasks[i]? = some stage ∧
        Stage.Moves settings now draw w.gateFree w.session stage input w'.session stage') ∨
      (∃ c, e = .called c ∧ i = w.tasks.length ∧ stage' = c.stage) ∨
      ∃ kind, e = .wentOff kind ∧ i = w.tasks.length ∧
        stage' = .fired kind (w.session.timer kind).generation := by
  -- an entry of a list with one more at its end
  have concat : ∀ {a : Stage S}, (w.tasks ++ [a])[i]? = some stage' →
      w.tasks[i]? = some stage' ∨ (i = w.tasks.length ∧ stage' = a) := by
    intro a ha
    rcases Nat.lt_trichotomy i w.tasks.length with hlt | rfl | hlt
    · exact .inl ((List.getElem?_append_left hlt).symm.trans ha)
    · rw [List.getElem?_concat_length] at ha
      exact .inr ⟨rfl, (Option.some.inj ha).symm⟩
    · rw [List.getElem?_eq_none (by simp only [List.length_append, List.length_singleton]; omega)] at ha
      cases ha
  cases h with
  | called =>
    rcases concat hi with h | ⟨hl, hs⟩
    · exact .inl h
    · exact .inr (.inr (.inl ⟨_, rfl, hl, hs⟩))
  | planned => exact .inl hi
  | replaced => exact .inl hi
  | used => exact .inl hi
  | wentOff _ =>
    rcases concat hi with h | ⟨hl, hs⟩
    · exact .inl h
    · exact .inr (.inr (.inr ⟨_, rfl, hl, hs⟩))
  | @moved j stage stage₁ input now draw s hj hs =>
    by_cases hij : j = i
    · subst hij
      have hlt := (List.getElem?_eq_some_iff.mp hj).1
      obtain rfl : stage₁ = stage' := Option.some.inj ((List.getElem?_set_self hlt).symm.trans hi)
      exact .inr (.inl ⟨input, now, draw, stage, rfl, hj, Stage.moves_of_step hs⟩)
    · exact .inl ((List.getElem?_set_ne hij).symm.trans hi)

theorem Step.wentOff_task {kind : TimerKind} (h : Step settings w (.wentOff kind) w') :
    w'.tasks[w.tasks.length]? = some (.fired kind (w.session.timer kind).generation) := by
  cases h with
  | wentOff _ => exact List.getElem?_concat_length

/-! ## The gate -/

/-- No two tasks are past the gate. -/
def OneAtGate (w : Traffic S) : Prop :=
  ∀ (i j : Nat) (a b : Stage S), w.tasks[i]? = some a → w.tasks[j]? = some b →
    a.holdsGate → b.holdsGate → i = j

theorem not_holdsGate_of_free (h : w.gateFree) {i : Nat} {stage : Stage S}
    (hi : w.tasks[i]? = some stage) : stage.holdsGate = false := by
  unfold gateFree at h
  have := List.all_eq_true.mp h stage (List.mem_of_getElem? hi)
  simpa using this

/-- Who is past the gate was so before, or has just found it free. -/
theorem Step.gate_before (h : Step settings w e w') {i : Nat} {stage' : Stage S}
    (hi : w'.tasks[i]? = some stage') (hg : stage'.holdsGate) :
    (∃ stage, w.tasks[i]? = some stage ∧ stage.holdsGate) ∨
      w.gateFree ∧ ∃ input now draw, e = .moved i input now draw := by
  rcases h.task_before hi with h₁ | ⟨input, now, draw, stage, rfl, h₁, hm⟩ | ⟨c, -, -, rfl⟩ | ⟨kind, -, -, rfl⟩
  · exact .inl ⟨stage', h₁, hg⟩
  · generalize w'.session = s' at hm
    cases hm with
    | passed hfree => exact .inr ⟨hfree, _, now, draw, rfl⟩
    | @detached kind _ _ => cases kind <;> cases hg
    | admitted _ => exact .inl ⟨_, h₁, rfl⟩
    | begun => exact .inl ⟨_, h₁, rfl⟩
    | supplied _ => exact .inl ⟨_, h₁, rfl⟩
    | _ => cases hg
  · cases c <;> cases hg
  · cases hg

theorem Step.oneAtGate (h : Step settings w e w') (hw : w.OneAtGate) : w'.OneAtGate := by
  intro i j a b hi hj ha hb
  rcases h.gate_before hi ha with ⟨a₀, hi₀, ha₀⟩ | ⟨hfree, _, _, _, rfl⟩
  · rcases h.gate_before hj hb with ⟨b₀, hj₀, hb₀⟩ | ⟨hfree, -⟩
    · exact hw i j a₀ b₀ hi₀ hj₀ ha₀ hb₀
    · rw [not_holdsGate_of_free hfree hi₀] at ha₀
      cases ha₀
  · rcases h.gate_before hj hb with ⟨b₀, hj₀, hb₀⟩ | ⟨-, _, _, _, he⟩
    · rw [not_holdsGate_of_free hfree hj₀] at hb₀
      cases hb₀
    · injection he

theorem Runs.oneAtGate (hw : w₀.OneAtGate) (h : Runs settings w₀ past w) : w.OneAtGate := by
  induction h with
  | refl => exact hw
  | step _ hs ih => exact hs.oneAtGate ih

theorem oneAtGate_of_runs {s : Session S} (h : Runs settings (.start s) past w) : w.OneAtGate := by
  refine h.oneAtGate fun i _ _ _ hi => ?_
  cases hi

/-! ## What attempts come to -/

/-- An attempt ends here, and not with a token. -/
def Event.fails : Event S → Bool
  | .moved _ (.credential (.ok c)) _ _ => c.isZero
  | .moved _ (.credential (.error _)) _ _ => true
  | .moved _ (.token .refused) _ _ => true
  | .moved _ (.token .failed) _ _ => true
  | _ => false

def Event.succeeds (e : Event S) : Bool := e.issued?.isSome

theorem Event.succeeds_iff : e.succeeds ↔ ∃ token, e.answer? = some (.issued token) := by
  unfold Event.succeeds Event.issued?
  constructor
  · intro h
    split at h
    · next token ha => exact ⟨token, ha⟩
    · cases h
  · rintro ⟨token, ha⟩
    simp [ha]

theorem Event.not_succeeds_of_answer (h : ∀ token, e.answer? ≠ some (.issued token)) :
    e.succeeds = false := by
  refine Bool.eq_false_iff.mpr fun hs => ?_
  obtain ⟨token, ha⟩ := Event.succeeds_iff.mp hs
  exact h token ha

theorem Event.fails_of_answer {r : TokenAnswer} (h : e.answer? = some r)
    (hr : ∀ token, r ≠ .issued token) : e.fails := by
  cases e with
  | moved i input now draw =>
    cases input with
    | token r' =>
      obtain rfl : r' = r := Option.some.inj h
      cases r' with
      | issued token => exact absurd rfl (hr token)
      | refused => rfl
      | failed => rfl
    | _ => cases h
  | _ => cases h

theorem Event.not_succeeds_of_fails (h : e.fails) : e.succeeds = false := by
  cases e with
  | moved i input now draw =>
    cases input with
    | token r => cases r <;> first | rfl | cases h
    | _ => rfl
  | _ => rfl

/-- What an event leaves of the retry timer and of the count of failures. -/
inductive Replans (settings : SessionSettings) (s : Session S) : Event S → Timer → Cursor Float → Prop
  | kept {e : Event S} : e.fails = false → e.succeeds = false → Replans settings s e s.retry s.cursor
  | planned {due : Instant} : Replans settings s (.planned due) (s.retry.arm due) s.cursor
  | wentOff : Replans settings s (.wentOff .retry) s.retry.fire s.cursor
  | failed {i : Nat} {input : Input} {now : Instant} {draw : Float} :
    (Event.moved i input now draw : Event S).fails →
    Replans settings s (.moved i input now draw)
      (s.retry.arm (now + (settings.backoff.span (s.cursor.next draw).1).nanos)) (s.cursor.next draw).2
  | succeeded {e : Event S} : e.succeeds → Replans settings s e s.retry.cancel s.cursor.reset

theorem replans_of_moves {gateFree : Bool} {s s' : Session S} {stage stage' : Stage S} {i : Nat}
    {input : Input} {now : Instant} {draw : Float}
    (h : Stage.Moves settings now draw gateFree s stage input s' stage') :
    Replans settings s (.moved i input now draw) s'.retry s'.cursor := by
  cases h with
  | supplied hz => exact .kept hz rfl
  | unconfigured hz => exact .failed hz
  | unread => exact .failed rfl
  | issued => exact .succeeded rfl
  | refused => exact .failed rfl
  | failed => exact .failed rfl
  | _ => exact .kept rfl rfl

theorem Step.replans (h : Step settings w e w') :
    Replans settings w.session e w'.session.retry w'.session.cursor := by
  cases h with
  | called => exact .kept rfl rfl
  | planned => exact .planned
  | replaced => exact .kept rfl rfl
  | used => exact .kept rfl rfl
  | @wentOff kind _ =>
    cases kind with
    | retry => exact .wentOff
    | renew => exact .kept rfl rfl
    | expire => exact .kept rfl rfl
  | moved _ hs => exact replans_of_moves (Stage.moves_of_step hs)

theorem Step.attempt_of_fails {i : Nat} {input : Input} {now : Instant} {draw : Float}
    (h : Step settings w (.moved i input now draw) w')
    (hf : (Event.moved i input now draw : Event S).fails) :
    ∃ stage, w.tasks[i]? = some stage ∧ stage.isAttempt := by
  obtain ⟨stage, stage', hi, -, hm⟩ := h.moves
  generalize w'.session = s' at hm
  cases hm with
  | unconfigured _ => exact ⟨_, hi, rfl⟩
  | unread => exact ⟨_, hi, rfl⟩
  | refused => exact ⟨_, hi, rfl⟩
  | failed => exact ⟨_, hi, rfl⟩
  | supplied hz =>
    have hz' : Credential.isZero _ = true := hf
    rw [hz] at hz'
    cases hz'
  | _ => cases hf

/-- A failed attempt arms the next one, by the failures that were counted before it. -/
theorem Step.rearmed {i : Nat} {input : Input} {now : Instant} {draw : Float}
    (h : Step settings w (.moved i input now draw) w')
    (hf : (Event.moved i input now draw : Event S).fails) :
    w'.session.retry = w.session.retry.arm
        (now + (settings.backoff.span (w.session.cursor.next draw).1).nanos) ∧
      w'.session.cursor = (w.session.cursor.next draw).2 := by
  have hr := h.replans
  have hn := Event.not_succeeds_of_fails hf
  generalize w'.session.retry = t at hr ⊢
  generalize w'.session.cursor = c at hr ⊢
  cases hr with
  | kept hk _ =>
    rw [hf] at hk
    cases hk
  | failed _ => exact ⟨rfl, rfl⟩
  | succeeded hs =>
    rw [hn] at hs
    cases hs

end Traffic

end ClusterOperator.Provider
