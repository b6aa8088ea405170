import ClusterOperator.Proofs.Provider.Attempts

/-!
# Generations of timers

A timer counts how often it was replaced, and a task that it started goes on only as long as
the count is the one that it was started with. The count grows by at most one in each step, so
in any run of fewer than `2 ^ 64` steps it makes no difference that a word of 64 bits would wrap.
-/

namespace ClusterOperator.Provider

variable {S : Type}

namespace Stage

/-- The timer whose generation decides whether a task goes on, and the generation that it has
to have then. -/
def armedBy? : Stage S → Option (TimerKind × Nat)
  | .fired kind generation => some (kind, generation)
  | .waiting (.retry generation) | .entered (.retry generation) => some (.retry, generation)
  | _ => none

variable {settings : SessionSettings} {now : Instant} {draw : Float} {gateFree : Bool}
  {s s' : Session S} {stage stage' : Stage S} {input : Input} {kind : TimerKind} {g : Nat}

theorem Moves.generation_between (h : Moves settings now draw gateFree s stage input s' stage')
    (kind : TimerKind) : (s.timer kind).generation ≤ (s'.timer kind).generation ∧
      (s'.timer kind).generation ≤ (s.timer kind).generation + 1 := by
  cases h <;> cases kind <;>
    first | exact ⟨Nat.le_refl _, Nat.le_succ _⟩ | exact ⟨Nat.le_succ _, Nat.le_refl _⟩

theorem Moves.armedBy (h : Moves settings now draw gateFree s stage input s' stage')
    (ha : stage'.armedBy? = some (kind, g)) : stage.armedBy? = some (kind, g) := by
  cases h with
  | @detached fired _ _ =>
    cases fired with
    | retry => exact ha
    | renew => cases ha
    | expire => cases ha
  | @passed entry _ =>
    cases entry with
    | ping => cases ha
    | login => cases ha
    | retry _ => exact ha
  | _ => cases ha

end Stage

namespace Traffic

variable {settings : SessionSettings} {w w' u : Traffic S} {e : Event S} {past mid : List (Event S)}
  {kind : TimerKind} {i g : Nat} {stage : Stage S}

/-- A timer is only ever replaced by one that counts one further. -/
theorem Step.generation_between (h : Step settings w e w') (kind : TimerKind) :
    (w.session.timer kind).generation ≤ (w'.session.timer kind).generation ∧
      (w'.session.timer kind).generation ≤ (w.session.timer kind).generation + 1 := by
  cases h with
  | called => exact ⟨Nat.le_refl _, Nat.le_succ _⟩
  | planned =>
    cases kind <;>
      first | exact ⟨Nat.le_refl _, Nat.le_succ _⟩ | exact ⟨Nat.le_succ _, Nat.le_refl _⟩
  | replaced => cases kind <;> exact ⟨Nat.le_refl _, Nat.le_succ _⟩
  | used => cases kind <;> exact ⟨Nat.le_refl _, Nat.le_succ _⟩
  | @wentOff fired _ => cases kind <;> cases fired <;> exact ⟨Nat.le_refl _, Nat.le_succ _⟩
  | moved _ hs => exact (Stage.moves_of_step hs).generation_between kind

theorem Step.generation_le (h : Step settings w e w') (kind : TimerKind) :
    (w.session.timer kind).generation ≤ (w'.session.timer kind).generation :=
  (h.generation_between kind).1

theorem Runs.generation_between (h : Runs settings u mid w) (kind : TimerKind) :
    (u.session.timer kind).generation ≤ (w.session.timer kind).generation ∧
      (w.session.timer kind).generation ≤ (u.session.timer kind).generation + mid.length := by
  induction h with
  | refl => exact ⟨Nat.le_refl _, Nat.le_refl _⟩
  | @step past w w' e _ hs ih =>
    obtain ⟨hlo, hhi⟩ := hs.generation_between kind
    rw [List.length_cons]
    omega

/-! ## Tasks -/

/-- No task was started by a timer that is yet to be armed. -/
theorem armed_between {s : Session S} (h : Runs settings (.start s) past w)
    (hi : w.tasks[i]? = some stage) (ha : stage.armedBy? = some (kind, g)) :
    (s.timer kind).generation ≤ g ∧ g ≤ (w.session.timer kind).generation := by
  induction h generalizing i stage with
  | refl => cases hi
  | @step past w w' e hw hs ih =>
    have hle := hs.generation_le kind
    rcases hs.task_before hi with
      hi' | ⟨_, _, _, stage₀, -, hi', hm⟩ | ⟨c, -, -, rfl⟩ | ⟨fired, -, -, rfl⟩
    · exact (ih hi' ha).imp_right (Nat.le_trans · hle)
    · exact (ih hi' (hm.armedBy ha)).imp_right (Nat.le_trans · hle)
    · cases c <;> cases ha
    · cases ha
      exact ⟨(hw.generation_between kind).1, hle⟩

/-! ## Words of 64 bits -/

theorem ofNat_eq_iff {k : Nat} (hg : g ≤ k) (hk : k < g + 2 ^ 64) :
    UInt64.ofNat k = UInt64.ofNat g ↔ k = g := by
  rw [← UInt64.toNat_inj, UInt64.toNat_ofNat', UInt64.toNat_ofNat']
  omega

/-- In a run of fewer than `2 ^ 64` steps a task finds the generation of its timer changed
exactly if a count that wraps has changed. -/
theorem same_generation_iff {s : Session S} (h : Runs settings (.start s) past w)
    (hl : past.length < 2 ^ 64) (hi : w.tasks[i]? = some stage)
    (ha : stage.armedBy? = some (kind, g)) :
    UInt64.ofNat (w.session.timer kind).generation = UInt64.ofNat g ↔
      (w.session.timer kind).generation = g := by
  obtain ⟨hlo, hhi⟩ := armed_between h hi ha
  have hle : (w.session.timer kind).generation ≤ (s.timer kind).generation + past.length :=
    (h.generation_between kind).2
  exact ofNat_eq_iff hhi (by omega)

end Traffic

end ClusterOperator.Provider
