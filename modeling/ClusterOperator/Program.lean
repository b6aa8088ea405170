/-!
# Programs that ask

A program asks questions one at a time and goes on with each answer, until it is
done. What answers is left open: a pass can be run against stored objects, step
by step among other passes, or on top of another program.
-/

namespace ClusterOperator

/-- `A q` is the type of the answers to `q`. -/
inductive Program {Q : Type} (A : Q → Type) (α : Type) where
  | done (a : α)
  | ask (q : Q) (next : A q → Program A α)

namespace Program

variable {Q R : Type} {A : Q → Type} {B : R → Type} {α β σ : Type}

/-- Goes on with another program where this one is done. -/
def bind : Program A α → (α → Program A β) → Program A β
  | .done a, f => f a
  | .ask q next, f => .ask q fun a => (next a).bind f

instance : Monad (Program A) where
  pure := .done
  bind := .bind

/-- One question. -/
def query (q : Q) : Program A (A q) := .ask q .done

/-- Runs a program against something that keeps a state between answers. -/
def run (answer : (q : Q) → σ → A q × σ) : Program A α → σ → α × σ
  | .done a, s => (a, s)
  | .ask q next, s => (next (answer q s).1).run answer (answer q s).2

/-- Lets each question be answered by a program. -/
def interpret (answer : (q : Q) → Program B (A q)) : Program A α → Program B α
  | .done a => .done a
  | .ask q next => (answer q).bind fun a => (next a).interpret answer

@[simp] theorem pure_eq (a : α) : (pure a : Program A α) = .done a := rfl

@[simp] theorem bind_eq (p : Program A α) (f : α → Program A β) : (p >>= f) = p.bind f := rfl

theorem bind_done (p : Program A α) : p.bind .done = p := by
  induction p with
  | done a => rfl
  | ask q next ih => simp only [bind, ih]

theorem bind_assoc {γ : Type} (p : Program A α) (f : α → Program A β) (g : β → Program A γ) :
    (p.bind f).bind g = p.bind fun a => (f a).bind g := by
  induction p with
  | done a => rfl
  | ask q next ih => simp only [bind, ih]

instance : LawfulMonad (Program A) :=
  LawfulMonad.mk' _ bind_done (fun _ _ => rfl) bind_assoc

theorem run_bind (answer : (q : Q) → σ → A q × σ) (p : Program A α) (f : α → Program A β)
    (s : σ) :
    (p.bind f).run answer s = (f (p.run answer s).1).run answer (p.run answer s).2 := by
  induction p generalizing s with
  | done a => rfl
  | ask q next ih => exact ih _ _

end Program

end ClusterOperator
