import ClusterOperator.Proofs.Provider.Attempts

/-!
# Whose token an expiry ends

A login arms the expiry of its token. An expiry that goes off takes two steps: it
lets go of its timer, and then it ends the token that is there. A login between
going off and the first step calls it off; a login between the two steps is ended
in place of the one that the expiry was armed by.
-/

namespace ClusterOperator.Provider.Traffic

variable {S : Type} {settings : SessionSettings} {u v w w' : Traffic S} {e : Event S}
  {past mid : List (Event S)} {i g : Nat}

/-! ## The timer -/

theorem expire_of_moves {gateFree : Bool} {s s' : Session S} {stage stage' : Stage S}
    {input : Input} {now : Instant} {draw : Float}
    (h : Stage.Moves settings now draw gateFree s stage input s' stage') :
    s'.expire.generation = s.expire.generation +
      (Event.moved i input now draw : Event S).succeeds.toNat := by
  cases h <;> rfl

/-- The generation of the expiry counts the logins that succeeded. -/
theorem Step.expire_generation (h : Step settings w e w') :
    w'.session.expire.generation = w.session.expire.generation + e.succeeds.toNat := by
  cases h with
  | called => rfl
  | planned => rfl
  | replaced => rfl
  | used => rfl
  | @wentOff kind _ => cases kind <;> rfl
  | moved _ hs => exact expire_of_moves (Stage.moves_of_step hs)

theorem Runs.expire_generation (h : Runs settings u mid w) :
    w.session.expire.generation = u.session.expire.generation + mid.countP Event.succeeds := by
  induction h with
  | refl => rfl
  | @step past w w' e _ hs ih =>
    rw [hs.expire_generation, ih, List.countP_cons, Nat.add_assoc]
    cases e.succeeds <;> rfl

/-! ## The task -/

/-- A login succeeded after a step of the task. -/
def Overtaken (i : Nat) (mid : List (Event S)) : Prop :=
  ∃ after e before, mid = after ++ e :: before ∧ e.succeeds ∧ ∃ m ∈ before, m.isMoveOf i

theorem Overtaken.moved (h : Overtaken i mid) : ∃ m ∈ mid, m.isMoveOf i := by
  obtain ⟨after, e, before, rfl, -, m, hm, hi⟩ := h
  exact ⟨m, List.mem_append_right _ (List.mem_cons_of_mem _ hm), hi⟩

theorem Overtaken.cons (h : Overtaken i mid) : Overtaken i (e :: mid) := by
  obtain ⟨after, e', before, rfl, hs, hm⟩ := h
  exact ⟨e :: after, e', before, rfl, hs, hm⟩

/-- Where an expiry stands, and whether the login is still the one that it was armed by. -/
inductive Expires (i g : Nat) (mid : List (Event S)) (w : Traffic S) : Prop
  | fired : w.tasks[i]? = some (.fired .expire g) → (¬ ∃ m ∈ mid, m.isMoveOf i) → Expires i g mid w
  | expiring : w.tasks[i]? = some .expiring → (∃ m ∈ mid, m.isMoveOf i) →
    (w.session.expire.generation = g ∨ Overtaken i mid) → Expires i g mid w
  | finished : w.tasks[i]? = some .finished → Expires i g mid w

theorem Step.expires (h : Step settings w e w') (hw : Expires i g mid w) :
    Expires i g (e :: mid) w' := by
  by_cases he : e.isMoveOf i
  · have hm : ∃ m ∈ e :: mid, m.isMoveOf i := ⟨e, List.mem_cons_self, he⟩
    obtain ⟨input, now, draw, rfl⟩ := he
    obtain ⟨stage, stage', hi, hi', hmv⟩ := h.moves
    have hg := h.expire_generation
    cases hw with
    | fired hf _ =>
      obtain rfl := Option.some.inj (hf.symm.trans hi)
      generalize w'.session = s' at hmv
      cases hmv with
      | detached hd => exact .expiring hi' hm (.inl (hg.trans hd))
      | outdated _ => exact .finished hi'
    | expiring hf _ _ =>
      obtain rfl := Option.some.inj (hf.symm.trans hi)
      generalize w'.session = s' at hmv
      cases hmv with
      | expired => exact .finished hi'
    | finished hf =>
      obtain rfl := Option.some.inj (hf.symm.trans hi)
      cases hmv
  · cases hw with
    | fired hf hn =>
      refine .fired (h.task_kept he hf) ?_
      rintro ⟨m, hm, hi⟩
      rcases List.mem_cons.mp hm with rfl | hm
      · exact he hi
      · exact hn ⟨m, hm, hi⟩
    | expiring hf hm hg =>
      obtain ⟨m, hmem, hi⟩ := hm
      refine .expiring (h.task_kept he hf) ⟨m, List.mem_cons_of_mem _ hmem, hi⟩ ?_
      by_cases hs : e.succeeds
      · exact .inr ⟨[], e, mid, rfl, hs, m, hmem, hi⟩
      · rcases hg with hg | ho
        · refine .inl ?_
          rw [h.expire_generation, hg, Bool.eq_false_iff.mpr hs]
          rfl
        · exact .inr ho.cons
    | finished hf => exact .finished (h.task_kept he hf)

theorem expires_of_runs (hgo : Step settings v (.wentOff .expire) u) (h : Runs settings u mid w) :
    Expires v.tasks.length v.session.expire.generation mid w := by
  induction h with
  | refl => exact .fired hgo.wentOff_task (by simp)
  | step _ hs ih => exact hs.expires ih

/-- An expiry that goes off and is followed by another login leaves that login's state,
token and renewal alone exactly if the login did not fall between its two steps;
otherwise it ends that login. -/
theorem expiry_spares_later_iff {input : Input} {now : Instant} {draw : Float}
    (hgo : Step settings v (.wentOff .expire) u) (h : Runs settings u mid w)
    (hs : Step settings w (.moved v.tasks.length input now draw) w')
    (hl : ∃ e ∈ mid, e.succeeds) :
    (w'.session.login = w.session.login ∧ w'.session.renew = w.session.renew ↔
      ¬ Overtaken v.tasks.length mid) ∧
    (Overtaken v.tasks.length mid → w'.session = w.session.expireLogin) := by
  have hlater : w.session.expire.generation ≠ v.session.expire.generation := by
    have hpos : 0 < mid.countP Event.succeeds := List.countP_pos_iff.mpr hl
    have hu : u.session.expire.generation = v.session.expire.generation := hgo.expire_generation
    have hw := h.expire_generation
    omega
  obtain ⟨stage, stage', hi, -, hm⟩ := hs.moves
  generalize w'.session = s' at hm ⊢
  cases expires_of_runs hgo h with
  | fired hf hn =>
    obtain rfl := Option.some.inj (hf.symm.trans hi)
    have ho : ¬ Overtaken v.tasks.length mid := fun ho => hn ho.moved
    cases hm with
    | detached hd => exact absurd hd hlater
    | outdated _ => exact ⟨⟨fun _ => ho, fun _ => ⟨rfl, rfl⟩⟩, fun h => absurd h ho⟩
  | expiring hf _ hg =>
    obtain rfl := Option.some.inj (hf.symm.trans hi)
    have ho : Overtaken v.tasks.length mid := hg.resolve_left hlater
    cases hm with
    | expired =>
      refine ⟨⟨fun ⟨_, hr⟩ => ?_, fun hn => absurd ho hn⟩, fun _ => rfl⟩
      -- the renewal is cancelled, which counts its generation up
      have hn : w.session.renew.generation + 1 = w.session.renew.generation :=
        congrArg Timer.generation hr
      omega
  | finished hf =>
    obtain rfl := Option.some.inj (hf.symm.trans hi)
    cases hm

namespace Sample

/-- When the sample's token runs out. -/
def atExpiry : Instant := (Span.ofSeconds 600).nanos

def loggedInAgain (task : Nat) : List (Event Unit) :=
  [.moved task (.token (.issued ⟨"second", "t2", 600⟩)) atExpiry 0,
    .moved task (.credential (.ok ⟨"key", "secret"⟩)) 0 0] ++ asking task

/-- What a second login leaves, after the expiry of the first one went off. -/
def second : Session Unit :=
  (active.fire .expire).succeed .start atExpiry ⟨"second", "t2", 600⟩

theorem expiry_wentOff : Step .start ⟨active, [.finished]⟩ (.wentOff .expire)
    ⟨active.fire .expire, [.finished, .fired .expire 1]⟩ := .wentOff rfl

/-- A second login, before the first step of the expiry or after it. -/
theorem second_runs {stage : Stage Unit} (h : stage = .fired .expire 1 ∨ stage = .expiring) :
    Runs .start ⟨active.fire .expire, [.finished, stage]⟩ (loggedInAgain 2)
      ⟨second, [.finished, stage, .finished]⟩ := by
  have h₁ : Runs .start ⟨active.fire .expire, [.finished, stage]⟩ (asking 2)
      ⟨active.fire .expire, [.finished, stage, .reading ()]⟩ := by
    rcases h with rfl | rfl <;>
      exact .step (.step (.step (.step .refl .called) (.moved rfl rfl)) (.moved rfl rfl)) (.moved rfl rfl)
  rcases h with rfl | rfl <;> exact .step (.step h₁ (.moved rfl rfl)) (.moved rfl rfl)

end Sample

/-- The second login comes before the first step of the expiry, which leaves it alone. -/
theorem expiry_spares_later_early : ∃ mid w w',
    Runs .start ⟨Sample.active.fire .expire, [.finished, .fired .expire 1]⟩ mid w ∧
      Step .start w (.moved 1 .none Sample.atExpiry 0) w' ∧ ¬ Overtaken 1 mid ∧
      w'.session.login = ⟨.active, "second", "t2"⟩ := by
  have h := Sample.second_runs (.inl rfl)
  have hs : Step .start ⟨Sample.second, [.finished, .fired .expire 1, .finished]⟩
      (.moved 1 .none Sample.atExpiry 0) ⟨Sample.second, [.finished, .finished, .finished]⟩ :=
    .moved rfl rfl
  have hn : ¬ Overtaken 1 (Sample.loggedInAgain 2) := by
    intro ho
    obtain ⟨m, hm, input, now, draw, rfl⟩ := ho.moved
    simp [Sample.loggedInAgain, Sample.asking] at hm
  obtain ⟨hi, -⟩ := expiry_spares_later_iff Sample.expiry_wentOff h hs ⟨_, List.mem_cons_self, rfl⟩
  exact ⟨_, _, _, h, hs, hn, (hi.mpr hn).1⟩

/-- The expiry of the first login goes off and lets go of its timer, the second login
succeeds, and then the expiry ends it. -/
theorem expiry_ends_later_login : ∃ past v u mid w w',
    Runs .start Sample.begun past v ∧ v.session.login = ⟨.active, "token", "t1"⟩ ∧
      Step .start v (.wentOff .expire) u ∧ Runs .start u mid w ∧ (∃ e ∈ mid, e.succeeds) ∧
      w.session.login = ⟨.active, "second", "t2"⟩ ∧ w.session.renew.due.isSome ∧
      Step .start w (.moved v.tasks.length .none Sample.atExpiry 0) w' ∧
      w'.session.login = ⟨.inactive, "", "t2"⟩ ∧ w'.session.renew.due = none := by
  have h₁ : Runs .start ⟨Sample.active.fire .expire, [.finished, .fired .expire 1]⟩
      [.moved 1 .none Sample.atExpiry 0] ⟨Sample.active.fire .expire, [.finished, .expiring]⟩ :=
    .step .refl (.moved rfl rfl)
  have h := h₁.append (Sample.second_runs (.inr rfl))
  have hs : Step .start ⟨Sample.second, [.finished, .expiring, .finished]⟩
      (.moved 1 .none Sample.atExpiry 0)
      ⟨Sample.second.expireLogin, [.finished, .finished, .finished]⟩ := .moved rfl rfl
  exact ⟨_, _, _, _, _, _, Sample.login_runs, rfl, Sample.expiry_wentOff, h,
    ⟨_, List.mem_cons_self, rfl⟩, rfl, rfl, hs, rfl, rfl⟩

end ClusterOperator.Provider.Traffic
