import ClusterOperator.Proofs.Program.Transcript

/-!
# Programs that are run

A run against something that keeps a state leaves a transcript. What holds of each answer and
the states around it holds all along, and programs can be run one after another.
-/

namespace ClusterOperator.Program

variable {Q : Type} {A : Q → Type} {α σ τ : Type} {answer : (q : Q) → σ → A q × σ}

/-- What a program is told when it is run. -/
def transcript (answer : (q : Q) → σ → A q × σ) : Program A α → σ → List (Exchange A)
  | .done _, _ => []
  | .ask q next, s =>
    ⟨q, (answer q s).1⟩ :: (next (answer q s).1).transcript answer (answer q s).2

theorem ends_transcript (p : Program A α) (s : σ) :
    Ends p (p.transcript answer s) (p.run answer s).1 := by
  induction p generalizing s with
  | done a => exact .now
  | ask q next ih => exact .later (ih _ _)

theorem transcript_bind {β : Type} (p : Program A α) (f : α → Program A β) (s : σ) :
    (p.bind f).transcript answer s =
      p.transcript answer s ++ (f (p.run answer s).1).transcript answer (p.run answer s).2 := by
  induction p generalizing s with
  | done a => rfl
  | ask q next ih => exact congrArg (_ :: ·) (ih _ _)

/-- Each exchange of a transcript takes one state to another. -/
inductive Along (R : τ → Exchange A → τ → Prop) : τ → List (Exchange A) → τ → Prop
  | nil {a : τ} : Along R a [] a
  | cons {a b c : τ} {x : Exchange A} {t : List (Exchange A)} : R a x b → Along R b t c →
    Along R a (x :: t) c

variable {R : τ → Exchange A → τ → Prop}

theorem Along.nil_inv {a b : τ} (h : Along R a [] b) : b = a := by
  cases h
  rfl

theorem Along.cons_inv {a c : τ} {x : Exchange A} {t : List (Exchange A)}
    (h : Along R a (x :: t) c) : ∃ b, R a x b ∧ Along R b t c := by
  cases h with
  | cons hx ht => exact ⟨_, hx, ht⟩

theorem Along.append_inv {a c : τ} {t u : List (Exchange A)} (h : Along R a (t ++ u) c) :
    ∃ b, Along R a t b ∧ Along R b u c := by
  induction t generalizing a with
  | nil => exact ⟨a, .nil, h⟩
  | cons x t ih =>
    cases h with
    | cons hx ht =>
      obtain ⟨b, h₁, h₂⟩ := ih ht
      exact ⟨b, .cons hx h₁, h₂⟩

theorem along_transcript {view : σ → τ}
    (h : ∀ q s, R (view s) ⟨q, (answer q s).1⟩ (view (answer q s).2)) (p : Program A α) (s : σ) :
    Along R (view s) (p.transcript answer s) (view (p.run answer s).2) := by
  induction p generalizing s with
  | done a => exact .nil
  | ask q next ih => exact .cons (h q s) (ih _ _)

/-! ## One program after another -/

section
variable (answer) (p : Nat → Program A α) (s : σ)

/-- The state after the programs with the numbers from 1 to `k`. -/
def after : Nat → σ
  | 0 => s
  | k + 1 => ((p (k + 1)).run answer (after k)).2

/-- What program number `k` is told. -/
def toldIn (k : Nat) : List (Exchange A) := (p k).transcript answer (after answer p s (k - 1))

/-- What program number `k` is done with. -/
def outcomeOf (k : Nat) : α := ((p k).run answer (after answer p s (k - 1))).1

end

theorem ends_toldIn (p : Nat → Program A α) (s : σ) (k : Nat) :
    Ends (p k) (toldIn answer p s k) (outcomeOf answer p s k) := ends_transcript _ _

theorem along_toldIn {view : σ → τ}
    (h : ∀ q s, R (view s) ⟨q, (answer q s).1⟩ (view (answer q s).2)) (p : Nat → Program A α)
    (s : σ) (k : Nat) : Along R (view (after answer p s k)) (toldIn answer p s (k + 1))
      (view (after answer p s (k + 1))) := along_transcript h _ _

end ClusterOperator.Program
