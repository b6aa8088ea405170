import Mathlib.Logic.Relation
import ClusterOperator.Proofs.Program.Transcript

/-!
# Programs side by side

A scene holds programs that are under way and a state that they share. In a
step a program is started, one of them has its next question answered, or the
state changes by itself. Programs are told nothing but answers, so what one
asks follows from its own transcript.
-/

namespace ClusterOperator

/-- A program under way, and what it was told so far. -/
structure Errand {Q : Type} (A : Q → Type) (α : Type) where
  program : Program A α
  told : List (Exchange A)

/-- Asked by an errand, whether or not it has its answer. -/
def Errand.Poses {Q : Type} {A : Q → Type} {α : Type} (e : Errand A α) (q : Q) : Prop :=
  e.program.Asks e.told q ∨ ∃ x ∈ e.told, x.question = q

structure Scene {Q : Type} (A : Q → Type) (α σ : Type) where
  state : σ
  errands : List (Errand A α)

/-- Which programs are started, how a state answers questions, and how it
changes by itself. -/
structure Environment {Q : Type} (A : Q → Type) (α σ : Type) where
  starts : Program A α → Prop
  answers : σ → Exchange A → σ → Prop
  drifts : σ → σ → Prop

variable {Q : Type} {A : Q → Type} {α σ : Type}

def Scene.start (s : σ) : Scene A α σ := ⟨s, []⟩

namespace Environment

variable (E : Environment A α σ)

/-- The errand at place `i` asks its next question and is told the answer. -/
def Turn (w : Scene A α σ) (i : Nat) (x : Exchange A) (w' : Scene A α σ) : Prop :=
  ∃ e, w.errands[i]? = some e ∧ e.program.Asks e.told x.question ∧
    E.answers w.state x w'.state ∧ w'.errands = w.errands.set i ⟨e.program, e.told ++ [x]⟩

inductive Step : Scene A α σ → Scene A α σ → Prop
  | start {w : Scene A α σ} {p : Program A α} (h : E.starts p) :
    Step w ⟨w.state, w.errands ++ [⟨p, []⟩]⟩
  | turn {w w' : Scene A α σ} {i : Nat} {x : Exchange A} (h : E.Turn w i x w') : Step w w'
  | drift {w : Scene A α σ} {s : σ} (h : E.drifts w.state s) : Step w ⟨s, w.errands⟩

abbrev Runs : Scene A α σ → Scene A α σ → Prop := Relation.ReflTransGen E.Step

/-- What an errand of a scene is: one of the programs that are started, with a
transcript that it can have. -/
def Genuine (e : Errand A α) : Prop := E.starts e.program ∧ e.program.Hears e.told

variable {E}

theorem Genuine.hears {p : Program A α} {told : List (Exchange A)} (h : E.Genuine ⟨p, told⟩) :
    p.Hears told := h.2

theorem Genuine.asks {e : Errand A α} (h : E.Genuine e) {q : Q} (hq : e.Poses q) :
    ∃ t u, e.told = t ++ u ∧ e.program.Asks t q := by
  rcases hq with hq | ⟨x, hx, rfl⟩
  · exact ⟨e.told, [], by simp, hq⟩
  · obtain ⟨t, u, ht⟩ := List.append_of_mem hx
    have hh := h.2
    rw [ht] at hh
    exact ⟨t, x :: u, ht, hh.asks⟩

theorem Turn.answers {w w' : Scene A α σ} {i : Nat} {x : Exchange A} (h : E.Turn w i x w') :
    E.answers w.state x w'.state := by
  obtain ⟨-, -, -, ha, -⟩ := h
  exact ha

theorem Turn.mem {w w' : Scene A α σ} {i : Nat} {x : Exchange A} (h : E.Turn w i x w') :
    ∃ e ∈ w.errands, w.errands[i]? = some e ∧ e.program.Asks e.told x.question := by
  obtain ⟨e, he, ha, -, -⟩ := h
  exact ⟨e, List.mem_of_getElem? he, he, ha⟩

theorem Turn.mem_after {w w' : Scene A α σ} {i : Nat} {x : Exchange A} (h : E.Turn w i x w')
    {e : Errand A α} (he : e ∈ w'.errands) :
    e ∈ w.errands ∨ ∃ e₀ ∈ w.errands, e = ⟨e₀.program, e₀.told ++ [x]⟩ ∧
      e₀.program.Asks e₀.told x.question := by
  obtain ⟨e₀, h₀, ha, -, hw⟩ := h
  rw [hw] at he
  rcases List.mem_or_eq_of_mem_set he with he | rfl
  · exact .inl he
  · exact .inr ⟨e₀, List.mem_of_getElem? h₀, rfl, ha⟩

theorem Step.genuine {w w' : Scene A α σ} (h : E.Step w w') (hw : ∀ e ∈ w.errands, E.Genuine e) :
    ∀ e ∈ w'.errands, E.Genuine e := by
  intro e he
  cases h with
  | start hp =>
    rcases List.mem_append.mp he with he | he
    · exact hw e he
    · obtain rfl := List.mem_singleton.mp he
      exact ⟨hp, .start⟩
  | turn ht =>
    rcases ht.mem_after he with he | ⟨e₀, h₀, rfl, ha⟩
    · exact hw e he
    · exact ⟨(hw e₀ h₀).1, ha.hears⟩
  | drift _ => exact hw e he

theorem Step.told {w w' : Scene A α σ} (h : E.Step w w') {x : Exchange A}
    (hx : ∃ e ∈ w.errands, x ∈ e.told) : ∃ e ∈ w'.errands, x ∈ e.told := by
  obtain ⟨e, he, hx⟩ := hx
  cases h with
  | start _ => exact ⟨e, List.mem_append_left _ he, hx⟩
  | @turn _ i y ht =>
    obtain ⟨e₀, h₀, -, -, hw⟩ := ht
    rw [hw]
    obtain ⟨j, hj⟩ := List.getElem?_of_mem he
    by_cases hij : i = j
    · subst hij
      obtain rfl := Option.some.inj (hj.symm.trans h₀)
      exact ⟨_, List.mem_set (List.getElem?_eq_some_iff.mp h₀).1 _, List.mem_append_left _ hx⟩
    · exact ⟨e, List.mem_of_getElem? ((List.getElem?_set_ne hij).trans hj), hx⟩
  | drift _ => exact ⟨e, he, hx⟩

/-- An errand of a scene was there before the step, or was started in it, or
heard an answer in it. -/
theorem Step.errand_cases {w w' : Scene A α σ} (h : E.Step w w') {i : Nat} {e : Errand A α}
    (he : w'.errands[i]? = some e) : w.errands[i]? = some e ∨
      (i = w.errands.length ∧ e.told = []) ∨
      ∃ x told, E.Turn w i x w' ∧ w.errands[i]? = some ⟨e.program, told⟩ ∧ e.told = told ++ [x] := by
  cases h with
  | start _ =>
    rcases Nat.lt_trichotomy i w.errands.length with hi | rfl | hi
    · exact .inl ((List.getElem?_append_left hi).symm.trans he)
    · rw [List.getElem?_concat_length] at he
      obtain rfl := Option.some.inj he
      exact .inr (.inl ⟨rfl, rfl⟩)
    · rw [List.getElem?_eq_none (by simp only [List.length_append, List.length_singleton]; omega)] at he
      cases he
  | @turn _ j x ht =>
    have ht' := ht
    obtain ⟨e₀, h₀, -, -, hw⟩ := ht'
    rw [hw] at he
    by_cases hij : j = i
    · subst hij
      rw [List.getElem?_set_self (List.getElem?_eq_some_iff.mp h₀).1] at he
      obtain rfl := Option.some.inj he
      exact .inr (.inr ⟨x, e₀.told, ht, h₀, rfl⟩)
    · rw [List.getElem?_set_ne hij] at he
      exact .inl he
  | drift _ => exact .inl he

/-- An errand stays in its place, and may have heard more. -/
theorem Step.goes_on {w w' : Scene A α σ} (h : E.Step w w') {i : Nat} {e : Errand A α}
    (he : w.errands[i]? = some e) : ∃ more, w'.errands[i]? = some ⟨e.program, e.told ++ more⟩ := by
  have hi := (List.getElem?_eq_some_iff.mp he).1
  cases h with
  | start _ => exact ⟨[], by rw [List.getElem?_append_left hi, he, List.append_nil]⟩
  | @turn _ j x ht =>
    obtain ⟨e₀, h₀, -, -, hw⟩ := ht
    rw [hw]
    by_cases hij : j = i
    · subst hij
      obtain rfl := Option.some.inj (he.symm.trans h₀)
      exact ⟨[x], List.getElem?_set_self hi⟩
    · exact ⟨[], by rw [List.getElem?_set_ne hij, he, List.append_nil]⟩
  | drift _ => exact ⟨[], by rw [he, List.append_nil]⟩

theorem Runs.goes_on {w w' : Scene A α σ} (h : E.Runs w w') {i : Nat} {e : Errand A α}
    (he : w.errands[i]? = some e) : ∃ more, w'.errands[i]? = some ⟨e.program, e.told ++ more⟩ := by
  induction h with
  | refl => exact ⟨[], by rw [he, List.append_nil]⟩
  | tail _ hs ih =>
    obtain ⟨more, hm⟩ := ih
    obtain ⟨more', hm'⟩ := hs.goes_on hm
    exact ⟨more ++ more', by rw [hm', List.append_assoc]⟩

/-- Runs of an environment are runs of one that lets more happen. -/
theorem Runs.mono {E' : Environment A α σ} (hs : ∀ {p}, E.starts p → E'.starts p)
    (ha : ∀ {s x s'}, E.answers s x s' → E'.answers s x s')
    (hd : ∀ {s s'}, E.drifts s s' → E'.drifts s s') {w w' : Scene A α σ} (h : E.Runs w w') :
    E'.Runs w w' := by
  refine Relation.ReflTransGen.mono (fun u v hstep => ?_) _ _ h
  cases hstep with
  | start hp => exact .start (hs hp)
  | turn ht =>
    obtain ⟨e, he, hq, hx, hw⟩ := ht
    exact .turn ⟨e, he, hq, ha hx, hw⟩
  | drift h => exact .drift (hd h)

theorem Runs.genuine {s : σ} {w : Scene A α σ} (h : E.Runs (.start s) w) :
    ∀ e ∈ w.errands, E.Genuine e := by
  induction h with
  | refl => exact fun e he => absurd he (List.not_mem_nil)
  | tail _ h ih => exact h.genuine ih

/-- What does not hold at first and holds later begins to hold in some step. -/
theorem Runs.exists_first {P : Scene A α σ → Prop} {w₀ w : Scene A α σ} (h : E.Runs w₀ w)
    (h₀ : ¬ P w₀) (hw : P w) :
    ∃ u v, E.Runs w₀ u ∧ E.Step u v ∧ E.Runs v w ∧ ¬ P u ∧ P v := by
  induction h with
  | refl => exact absurd hw h₀
  | @tail u w hu hs ih =>
    by_cases hp : P u
    · obtain ⟨a, b, ha, hab, hb, hna, hpb⟩ := ih hp
      exact ⟨a, b, ha, hab, hb.tail hs, hna, hpb⟩
    · exact ⟨u, w, hu, hs, .refl, hp, hw⟩

theorem Runs.told {P : Exchange A → Prop} (hP : ∀ {s x s'}, E.answers s x s' → P x) {s : σ}
    {w : Scene A α σ} (h : E.Runs (.start s) w) : ∀ e ∈ w.errands, ∀ x ∈ e.told, P x := by
  induction h with
  | refl => exact fun e he => absurd he (List.not_mem_nil)
  | tail _ h ih =>
    intro e he x hx
    cases h with
    | start _ =>
      rcases List.mem_append.mp he with he | he
      · exact ih e he x hx
      · obtain rfl := List.mem_singleton.mp he
        cases hx
    | turn ht =>
      rcases ht.mem_after he with he | ⟨e₀, h₀, rfl, -⟩
      · exact ih e he x hx
      · rcases List.mem_append.mp hx with hx | hx
        · exact ih e₀ h₀ x hx
        · obtain rfl := List.mem_singleton.mp hx
          exact hP ht.answers
    | drift _ => exact ih e he x hx

theorem Runs.starts {w₀ w : Scene A α σ} (h : E.Runs w₀ w) {p : Program A α} (hp : E.starts p) :
    E.Runs w₀ ⟨w.state, w.errands ++ [⟨p, []⟩]⟩ :=
  h.tail (.start hp)

theorem Runs.turns {w₀ : Scene A α σ} {s : σ} {es : List (Errand A α)}
    (h : E.Runs w₀ ⟨s, es⟩) (i : Nat) (x : Exchange A) (s' : σ) {e : Errand A α}
    (he : es[i]? = some e) (ha : e.program.Asks e.told x.question) (hx : E.answers s x s') :
    E.Runs w₀ ⟨s', es.set i ⟨e.program, e.told ++ [x]⟩⟩ :=
  h.tail (.turn ⟨e, he, ha, hx, rfl⟩)

/-- An errand hears all that leaves the state as it is. -/
theorem Runs.hears {w₀ : Scene A α σ} {s : σ} {i : Nat} {p : Program A α} :
    ∀ {more told : List (Exchange A)} {es : List (Errand A α)}, E.Runs w₀ ⟨s, es⟩ →
      es[i]? = some ⟨p, told⟩ → p.Hears (told ++ more) → (∀ x ∈ more, E.answers s x s) →
      E.Runs w₀ ⟨s, es.set i ⟨p, told ++ more⟩⟩
  | [], told, es, h, he, _, _ => by
    obtain ⟨hi, he⟩ := List.getElem?_eq_some_iff.mp he
    rwa [List.append_nil, ← he, List.set_getElem_self]
  | x :: more, told, es, h, he, hp, ha => by
    have hi : (es.set i ⟨p, told ++ [x]⟩)[i]? = some ⟨p, told ++ [x]⟩ :=
      List.getElem?_set_self (List.getElem?_eq_some_iff.mp he).1
    have hx := h.turns i x s he hp.asks (ha x List.mem_cons_self)
    have hm := Runs.hears hx hi (by simpa using hp) fun y hy => ha y (List.mem_cons_of_mem _ hy)
    simpa [List.set_set] using hm

variable (E) in
/-- Answers one after the other, each in the state that the one before left. -/
inductive Tells : σ → List (Exchange A) → σ → Prop
  | nil {s : σ} : Tells s [] s
  | cons {s s' s'' : σ} {x : Exchange A} {told : List (Exchange A)} :
    E.answers s x s' → Tells s' told s'' → Tells s (x :: told) s''

theorem Tells.still {s s' : σ} {x : Exchange A} {told : List (Exchange A)} (h : E.answers s x s)
    (ht : E.Tells s told s') : E.Tells s (x :: told) s' := .cons h ht

theorem Tells.last {s s' : σ} {x : Exchange A} (h : E.answers s x s') : E.Tells s [x] s' :=
  .cons h .nil

theorem Runs.tells {w₀ : Scene A α σ} {es : List (Errand A α)} {p : Program A α} {s s' : σ}
    {told more : List (Exchange A)} (h : E.Runs w₀ ⟨s, es ++ [⟨p, told⟩]⟩)
    (hp : p.Hears (told ++ more)) (ht : E.Tells s more s') :
    E.Runs w₀ ⟨s', es ++ [⟨p, told ++ more⟩]⟩ := by
  induction ht generalizing told with
  | nil => rwa [List.append_nil]
  | @cons s s₁ s' x more hx _ ih =>
    have he : (es ++ [⟨p, told⟩])[es.length]? = some ⟨p, told⟩ := List.getElem?_concat_length
    have h₁ := h.turns es.length x s₁ he hp.asks hx
    rw [List.set_append_right _ _ (Nat.le_refl _), Nat.sub_self] at h₁
    have h₂ : E.Runs w₀ ⟨s', es ++ [⟨p, told ++ [x] ++ more⟩]⟩ := ih h₁ (by simpa using hp)
    simpa using h₂

/-- A program is started, and hears its answers with nobody between them. -/
theorem Runs.performs {w₀ : Scene A α σ} {es : List (Errand A α)} {p : Program A α} {s s' : σ}
    {told : List (Exchange A)} (h : E.Runs w₀ ⟨s, es⟩) (hs : E.starts p) (hp : p.Hears told)
    (ht : E.Tells s told s') : E.Runs w₀ ⟨s', es ++ [⟨p, told⟩]⟩ :=
  (h.starts hs).tells hp ht

theorem Runs.drifts {w₀ w : Scene A α σ} (h : E.Runs w₀ w) {s : σ} (hd : E.drifts w.state s) :
    E.Runs w₀ ⟨s, w.errands⟩ :=
  h.tail (.drift hd)

/-- What holds at the start and is kept by every step holds in every scene
that is reached; a step may rely on what is known of all scenes reached. -/
theorem Runs.invariant {s : σ} {P : Scene A α σ → Prop} (h₀ : P (.start s))
    (hs : ∀ {w w'}, E.Runs (.start s) w → P w → E.Step w w' → P w') {w : Scene A α σ}
    (h : E.Runs (.start s) w) : P w := by
  induction h with
  | refl => exact h₀
  | tail hw h ih => exact hs hw ih h

end Environment

end ClusterOperator
