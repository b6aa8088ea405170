import ClusterOperator.Proofs.Program.Performance

/-!
# Programs that do not tell answers apart

A program can be blind to the difference between answers: whichever of them it hears, it goes on as
the same program. Two runs that hear answers of which it does not tell any apart ask the same and
are done with the same.
-/

namespace ClusterOperator.Program

variable {Q : Type} {A : Q → Type} {α β ε σ τ : Type}

/-- A program that goes on in the same way after answers that are alike. -/
inductive Blind (Alike : (q : Q) → A q → A q → Prop) : Program A α → Prop
  | done {a : α} : Blind Alike (.done a)
  | ask {q : Q} {next : A q → Program A α} (same : ∀ a b, Alike q a b → next a = next b)
    (rest : ∀ a, Blind Alike (next a)) : Blind Alike (.ask q next)

variable {Alike : (q : Q) → A q → A q → Prop} {p : Program A α} {q : Q}

theorem Blind.bind {f : α → Program A β} (hp : Blind Alike p) (hf : ∀ a, Blind Alike (f a)) :
    Blind Alike (p.bind f) := by
  induction hp with
  | done => exact hf _
  | ask same _ ih => exact .ask (fun a b h => congrArg (·.bind f) (same a b h)) ih

/-- A question whose answers are all told apart. -/
theorem blind_query (h : ∀ a b, Alike q a b → a = b) : Blind Alike (query q : Program A (A q)) :=
  .ask (fun a b hab => congrArg Program.done (h a b hab)) fun _ => .done

/-! ## Programs that can fail -/

section
variable {x : ExceptT ε (Program A) α}

theorem Blind.try_bind {f : α → ExceptT ε (Program A) β} (hx : Blind Alike x.run)
    (hf : ∀ a, Blind Alike (f a).run) : Blind Alike (x >>= f).run := by
  refine Blind.bind (p := x.run) hx fun r => ?_
  cases r with
  | error e => exact .done
  | ok a => exact hf a

theorem Blind.tryCatch {h : ε → ExceptT ε (Program A) α} (hx : Blind Alike x.run)
    (hh : ∀ e, Blind Alike (h e).run) : Blind Alike (tryCatch x h).run := by
  refine Blind.bind (p := x.run) hx fun r => ?_
  cases r with
  | error e => exact hh e
  | ok a => exact .done

/-- A question whose answers are used in one way only. -/
theorem blind_lift_bind {f : A q → ExceptT ε (Program A) β} (same : ∀ a b, Alike q a b → f a = f b)
    (hf : ∀ a, Blind Alike (f a).run) : Blind Alike (ExceptT.lift (query q) >>= f).run :=
  show Blind Alike (.ask q fun a => (f a).run) from
    .ask (fun a b h => congrArg ExceptT.run (same a b h)) hf

end

/-! ## Two runs -/

/-- Two runs whose states stay the same to an observer as long as their answers are alike. -/
theorem Blind.run_eq {first : (q : Q) → σ → A q × σ} {second : (q : Q) → τ → A q × τ}
    {Same : σ → τ → Prop}
    (step : ∀ q s t, Same s t → Alike q (first q s).1 (second q t).1 ∧
      Same (first q s).2 (second q t).2)
    (hp : Blind Alike p) {s : σ} {t : τ} (hst : Same s t) :
    (p.run first s).1 = (p.run second t).1 ∧ Same (p.run first s).2 (p.run second t).2 ∧
      (p.transcript first s).map (·.question) = (p.transcript second t).map (·.question) := by
  induction hp generalizing s t with
  | done => exact ⟨rfl, hst, rfl⟩
  | @ask q next same _ ih =>
    obtain ⟨halike, hsame⟩ := step q s t hst
    obtain ⟨hresult, hstate, hasked⟩ := ih (first q s).1 hsame
    rw [same _ _ halike] at hresult hstate hasked
    refine ⟨?_, ?_, ?_⟩
    · rw [run, run, same _ _ halike]
      exact hresult
    · rw [run, run, same _ _ halike]
      exact hstate
    · rw [transcript, transcript, same _ _ halike, List.map_cons, List.map_cons]
      exact congrArg (q :: ·) hasked

end ClusterOperator.Program
