import ClusterOperator.Program

/-!
# Transcripts of programs

What a program was told so far, as a list of exchanges. `Asks` says which
question comes next after a transcript, `Ends` what the program is done with.
Sequencing splits a transcript in two; interpreting a program spells each of
its exchanges out.
-/

namespace ClusterOperator

variable {Q R : Type} {A : Q → Type} {B : R → Type} {α β ε : Type}

structure Exchange {Q : Type} (A : Q → Type) where
  question : Q
  answer : A question

namespace Program

inductive Asks : Program A α → List (Exchange A) → Q → Prop
  | now {q : Q} {next : A q → Program A α} : Asks (.ask q next) [] q
  | later {q r : Q} {next : A q → Program A α} {a : A q} {told : List (Exchange A)} :
    Asks (next a) told r → Asks (.ask q next) (⟨q, a⟩ :: told) r

inductive Ends : Program A α → List (Exchange A) → α → Prop
  | now {a : α} : Ends (.done a) [] a
  | later {q : Q} {next : A q → Program A α} {a : A q} {told : List (Exchange A)} {r : α} :
    Ends (next a) told r → Ends (.ask q next) (⟨q, a⟩ :: told) r

theorem asks_done {a : α} {told : List (Exchange A)} {q : Q} :
    ¬ Asks (.done a : Program A α) told q := nofun

theorem ends_done {a r : α} {told : List (Exchange A)} :
    Ends (.done a : Program A α) told r ↔ told = [] ∧ r = a := by
  constructor
  · intro h; cases h; exact ⟨rfl, rfl⟩
  · rintro ⟨rfl, rfl⟩; exact .now

theorem asks_query {q r : Q} {told : List (Exchange A)} :
    Asks (query q : Program A (A q)) told r ↔ told = [] ∧ r = q := by
  constructor
  · intro h
    cases h with
    | now => exact ⟨rfl, rfl⟩
    | later h => cases h
  · rintro ⟨rfl, rfl⟩; exact .now

theorem ends_query {q : Q} {r : A q} {told : List (Exchange A)} :
    Ends (query q : Program A (A q)) told r ↔ told = [⟨q, r⟩] := by
  constructor
  · intro h
    cases h with
    | later h => cases h; rfl
  · rintro rfl; exact .later .now

/-! ## Sequencing -/

theorem Ends.asks_bind {p : Program A α} {f : α → Program A β} {s t : List (Exchange A)} {a : α}
    {q : Q} (hp : Ends p s a) (hf : Asks (f a) t q) : Asks (p.bind f) (s ++ t) q := by
  induction hp with
  | now => exact hf
  | later _ ih => exact .later (ih hf)

theorem Ends.ends_bind {p : Program A α} {f : α → Program A β} {s t : List (Exchange A)} {a : α}
    {b : β} (hp : Ends p s a) (hf : Ends (f a) t b) : Ends (p.bind f) (s ++ t) b := by
  induction hp with
  | now => exact hf
  | later _ ih => exact .later (ih hf)

theorem Asks.bind {p : Program A α} {f : α → Program A β} {told : List (Exchange A)} {q : Q}
    (hp : Asks p told q) : Asks (p.bind f) told q := by
  induction hp with
  | now => exact .now
  | later _ ih => exact .later ih

theorem asks_bind {p : Program A α} {f : α → Program A β} {told : List (Exchange A)} {q : Q} :
    Asks (p.bind f) told q ↔
      Asks p told q ∨ ∃ a s t, Ends p s a ∧ Asks (f a) t q ∧ told = s ++ t := by
  constructor
  · intro h
    induction p generalizing told with
    | done a => exact .inr ⟨a, [], told, .now, h, rfl⟩
    | ask r next ih =>
      cases h with
      | now => exact .inl .now
      | later h =>
        rcases ih _ h with h | ⟨a, s, t, hp, hf, rfl⟩
        · exact .inl (.later h)
        · exact .inr ⟨a, _ :: s, t, .later hp, hf, rfl⟩
  · rintro (h | ⟨a, s, t, hp, hf, rfl⟩)
    · exact h.bind
    · exact hp.asks_bind hf

theorem ends_bind {p : Program A α} {f : α → Program A β} {told : List (Exchange A)} {b : β} :
    Ends (p.bind f) told b ↔ ∃ a s t, Ends p s a ∧ Ends (f a) t b ∧ told = s ++ t := by
  constructor
  · intro h
    induction p generalizing told with
    | done a => exact ⟨a, [], told, .now, h, rfl⟩
    | ask r next ih =>
      cases h with
      | later h =>
        obtain ⟨a, s, t, hp, hf, rfl⟩ := ih _ h
        exact ⟨a, _ :: s, t, .later hp, hf, rfl⟩
  · rintro ⟨a, s, t, hp, hf, rfl⟩
    exact hp.ends_bind hf

/-! ## Any part of a transcript -/

/-- A transcript that a program can have. -/
inductive Hears : Program A α → List (Exchange A) → Prop
  | start {p : Program A α} : Hears p []
  | later {q : Q} {next : A q → Program A α} {a : A q} {told : List (Exchange A)} :
    Hears (next a) told → Hears (.ask q next) (⟨q, a⟩ :: told)

theorem Asks.hears {p : Program A α} {told : List (Exchange A)} {x : Exchange A}
    (h : Asks p told x.question) : Hears p (told ++ [x]) := by
  generalize hx : x.question = q at h
  induction h with
  | now => subst hx; exact .later .start
  | later _ ih => exact .later (ih hx)

theorem Hears.asks {p : Program A α} {s t : List (Exchange A)} {x : Exchange A}
    (h : Hears p (s ++ x :: t)) : Asks p s x.question := by
  induction s generalizing p with
  | nil => cases h; exact .now
  | cons y s ih => cases h with | later h => exact .later (ih h)

theorem Hears.of_append {p : Program A α} {s t : List (Exchange A)} (h : Hears p (s ++ t)) :
    Hears p s := by
  induction s generalizing p with
  | nil => exact .start
  | cons y s ih => cases h with | later h => exact .later (ih h)

theorem Asks.heard {p : Program A α} {told : List (Exchange A)} {q : Q} (h : Asks p told q) :
    Hears p told := by
  induction h with
  | now => exact .start
  | later _ ih => exact .later ih

theorem Ends.hears {p : Program A α} {told : List (Exchange A)} {a : α} (h : Ends p told a) :
    Hears p told := by
  induction h with
  | now => exact .start
  | later _ ih => exact .later ih

/-- What a program is told decides when it is done and with what. -/
theorem Ends.unique {p : Program A α} {s t u v : List (Exchange A)} {a b : α} (ha : Ends p s a)
    (hb : Ends p t b) (h : s ++ u = t ++ v) : s = t ∧ u = v ∧ a = b := by
  induction ha generalizing t with
  | now =>
    obtain ⟨rfl, rfl⟩ := ends_done.mp hb
    exact ⟨rfl, h, rfl⟩
  | later _ ih =>
    cases hb with
    | later hb =>
      obtain ⟨hx, ht⟩ := List.cons.inj h
      cases hx
      obtain ⟨rfl, hu, hr⟩ := ih hb ht
      exact ⟨rfl, hu, hr⟩

/-- All questions of a program, whatever it is told, are of a kind. -/
def Only (P : Q → Prop) (p : Program A α) : Prop := ∀ told q, Asks p told q → P q

theorem only_done {P : Q → Prop} {a : α} : Only P (.done a : Program A α) :=
  fun _ _ h => absurd h asks_done

theorem only_ask {P : Q → Prop} {q : Q} {next : A q → Program A α} (hq : P q)
    (hn : ∀ a, Only P (next a)) : Only P (.ask q next) := by
  intro told r h
  cases h with
  | now => exact hq
  | later h => exact hn _ _ _ h

theorem Only.hears {P : Q → Prop} {p : Program A α} (hp : Only P p) {told : List (Exchange A)}
    (h : Hears p told) {x : Exchange A} (hx : x ∈ told) : P x.question := by
  obtain ⟨s, t, rfl⟩ := List.append_of_mem hx
  exact hp _ _ h.asks

/-! ## Programs that can fail -/

section
variable {x : ExceptT ε (Program A) α} {f : α → ExceptT ε (Program A) β}
  {told : List (Exchange A)} {q : Q}

theorem asks_try_bind : Asks (x >>= f).run told q ↔
    Asks x.run told q ∨ ∃ a s t, Ends x.run s (.ok a) ∧ Asks (f a).run t q ∧ told = s ++ t := by
  refine Iff.trans (asks_bind (p := x.run)) (or_congr_right ⟨?_, ?_⟩)
  · rintro ⟨r, s, t, hx, hf, rfl⟩
    cases r with
    | error e => exact absurd hf asks_done
    | ok a => exact ⟨a, s, t, hx, hf, rfl⟩
  · rintro ⟨a, s, t, hx, hf, rfl⟩
    exact ⟨.ok a, s, t, hx, hf, rfl⟩

theorem ends_try_bind {r : Except ε β} : Ends (x >>= f).run told r ↔
    (∃ e, Ends x.run told (.error e) ∧ r = .error e) ∨
      ∃ a s t, Ends x.run s (.ok a) ∧ Ends (f a).run t r ∧ told = s ++ t := by
  refine Iff.trans (ends_bind (p := x.run)) ⟨?_, ?_⟩
  · rintro ⟨r, s, t, hx, hf, rfl⟩
    cases r with
    | error e =>
      obtain ⟨rfl, rfl⟩ := ends_done.mp hf
      exact .inl ⟨e, by simpa using hx, rfl⟩
    | ok a => exact .inr ⟨a, s, t, hx, hf, rfl⟩
  · rintro (⟨e, hx, rfl⟩ | ⟨a, s, t, hx, hf, rfl⟩)
    · exact ⟨.error e, told, [], hx, .now, by simp⟩
    · exact ⟨.ok a, s, t, hx, hf, rfl⟩

theorem Ends.try_bind {s t : List (Exchange A)} {a : α} {r : Except ε β}
    (hx : Ends x.run s (.ok a)) (hf : Ends (f a).run t r) : Ends (x >>= f).run (s ++ t) r :=
  ends_try_bind.mpr (.inr ⟨a, s, t, hx, hf, rfl⟩)

theorem asks_tryCatch {h : ε → ExceptT ε (Program A) α} : Asks (tryCatch x h).run told q ↔
    Asks x.run told q ∨ ∃ e s t, Ends x.run s (.error e) ∧ Asks (h e).run t q ∧ told = s ++ t := by
  refine Iff.trans (asks_bind (p := x.run)) (or_congr_right ⟨?_, ?_⟩)
  · rintro ⟨r, s, t, hx, hf, rfl⟩
    cases r with
    | error e => exact ⟨e, s, t, hx, hf, rfl⟩
    | ok a => exact absurd hf asks_done
  · rintro ⟨e, s, t, hx, hf, rfl⟩
    exact ⟨.error e, s, t, hx, hf, rfl⟩

theorem ends_tryCatch {h : ε → ExceptT ε (Program A) α} {r : Except ε α} :
    Ends (tryCatch x h).run told r ↔
      (∃ a, Ends x.run told (.ok a) ∧ r = .ok a) ∨
        ∃ e s t, Ends x.run s (.error e) ∧ Ends (h e).run t r ∧ told = s ++ t := by
  refine Iff.trans (ends_bind (p := x.run)) ⟨?_, ?_⟩
  · rintro ⟨r, s, t, hx, hf, rfl⟩
    cases r with
    | error e => exact .inr ⟨e, s, t, hx, hf, rfl⟩
    | ok a =>
      obtain ⟨rfl, rfl⟩ := ends_done.mp hf
      exact .inl ⟨a, by simpa using hx, rfl⟩
  · rintro (⟨a, hx, rfl⟩ | ⟨e, s, t, hx, hf, rfl⟩)
    · exact ⟨.ok a, told, [], hx, .now, by simp⟩
    · exact ⟨.error e, s, t, hx, hf, rfl⟩

theorem asks_lift_bind {r : Q} {g : A q → ExceptT ε (Program A) β} :
    Asks (ExceptT.lift (query q) >>= g).run told r ↔
      (told = [] ∧ r = q) ∨ ∃ a t, told = ⟨q, a⟩ :: t ∧ Asks (g a).run t r := by
  change Asks (.ask q fun a => (g a).run) told r ↔ _
  constructor
  · intro h
    cases h with
    | now => exact .inl ⟨rfl, rfl⟩
    | later h => exact .inr ⟨_, _, rfl, h⟩
  · rintro (⟨rfl, rfl⟩ | ⟨a, t, rfl, h⟩)
    · exact .now
    · exact .later h

theorem ends_lift_bind {g : A q → ExceptT ε (Program A) β} {r : Except ε β} :
    Ends (ExceptT.lift (query q) >>= g).run told r ↔
      ∃ a t, told = ⟨q, a⟩ :: t ∧ Ends (g a).run t r := by
  change Ends (.ask q fun a => (g a).run) told r ↔ _
  constructor
  · intro h
    cases h with
    | later h => exact ⟨_, _, rfl, h⟩
  · rintro ⟨a, t, rfl, h⟩
    exact .later h

theorem Only.try_bind {P : Q → Prop} (hx : Only P x.run) (hf : ∀ a, Only P (f a).run) :
    Only P (x >>= f).run := by
  intro told q h
  rcases asks_try_bind.mp h with h₁ | ⟨a, s, t, -, h₁, rfl⟩
  · exact hx _ _ h₁
  · exact hf a _ _ h₁

end

/-! ## Interpreting -/

section
variable (answer : (q : Q) → Program B (A q))

/-- Each exchange of the first transcript as a run of the program that answers it. -/
inductive Spells : List (Exchange A) → List (Exchange B) → Prop
  | nil : Spells [] []
  | cons {q : Q} {a : A q} {told : List (Exchange A)} {part rest : List (Exchange B)} :
    Ends (answer q) part a → Spells told rest → Spells (⟨q, a⟩ :: told) (part ++ rest)

variable {answer}

theorem asks_interpret {p : Program A α} {told : List (Exchange B)} {r : R} :
    Asks (p.interpret answer) told r ↔
      ∃ heard s t q, Asks p heard q ∧ Spells answer heard s ∧ Asks (answer q) t r ∧
        told = s ++ t := by
  constructor
  · intro h
    induction p generalizing told with
    | done a => exact absurd h asks_done
    | ask q next ih =>
      rcases asks_bind.mp h with h | ⟨a, s, t, hq, hn, rfl⟩
      · exact ⟨[], [], told, q, .now, .nil, h, rfl⟩
      · obtain ⟨heard, s', t', q', hp, hs, ht, rfl⟩ := ih a hn
        exact ⟨⟨q, a⟩ :: heard, s ++ s', t', q', .later hp, .cons hq hs, ht, by simp⟩
  · rintro ⟨heard, s, t, q, hp, hs, ht, rfl⟩
    induction hp generalizing s with
    | now => cases hs; exact ht.bind
    | later _ ih =>
      cases hs with
      | cons hq hs =>
        rw [List.append_assoc]
        exact hq.asks_bind (ih _ hs ht)

theorem ends_interpret {p : Program A α} {told : List (Exchange B)} {a : α} :
    Ends (p.interpret answer) told a ↔ ∃ heard, Ends p heard a ∧ Spells answer heard told := by
  constructor
  · intro h
    induction p generalizing told with
    | done b =>
      obtain ⟨rfl, rfl⟩ := ends_done.mp h
      exact ⟨[], .now, .nil⟩
    | ask q next ih =>
      obtain ⟨b, s, t, hq, hn, rfl⟩ := ends_bind.mp h
      obtain ⟨heard, hp, hs⟩ := ih b hn
      exact ⟨⟨q, b⟩ :: heard, .later hp, .cons hq hs⟩
  · rintro ⟨heard, hp, hs⟩
    induction hp generalizing told with
    | now => cases hs; exact .now
    | later _ ih =>
      cases hs with
      | cons hq hs => exact hq.ends_bind (ih hs)

/-- Questions that are passed on are answered one by one. -/
theorem spells_query {f : Q → R} {heard : List (Exchange fun q => B (f q))}
    {told : List (Exchange B)} : Spells (fun q => query (f q)) heard told ↔
      told = heard.map fun x => ⟨f x.question, x.answer⟩ := by
  constructor
  · intro h
    induction h with
    | nil => rfl
    | cons hq _ ih => rw [ends_query.mp hq, ih]; rfl
  · rintro rfl
    induction heard with
    | nil => exact .nil
    | cons x heard ih =>
      show Spells _ (x :: heard) ([⟨f x.question, x.answer⟩] ++ heard.map _)
      exact .cons (ends_query.mpr rfl) ih

theorem Spells.of_append {s t : List (Exchange A)} {told : List (Exchange B)}
    (h : Spells answer (s ++ t) told) :
    ∃ u v, Spells answer s u ∧ Spells answer t v ∧ told = u ++ v := by
  induction s generalizing told with
  | nil => exact ⟨[], told, .nil, h, rfl⟩
  | cons x s ih =>
    cases h with
    | cons hq hs =>
      obtain ⟨u, v, hu, hv, rfl⟩ := ih hs
      exact ⟨_, v, .cons hq hu, hv, (List.append_assoc _ _ _).symm⟩

theorem Spells.mem {heard : List (Exchange A)} {told : List (Exchange B)}
    (h : Spells answer heard told) {x : Exchange A} (hx : x ∈ heard) :
    ∃ part, Ends (answer x.question) part x.answer ∧ part <:+: told := by
  induction h with
  | nil => cases hx
  | cons hq _ ih =>
    rcases List.mem_cons.mp hx with rfl | hx
    · exact ⟨_, hq, (List.prefix_append _ _).isInfix⟩
    · obtain ⟨part, hp, hi⟩ := ih hx
      exact ⟨part, hp, hi.trans (List.suffix_append _ _).isInfix⟩

theorem Spells.mem_of {heard : List (Exchange A)} {told : List (Exchange B)}
    (h : Spells answer heard told) {y : Exchange B} (hy : y ∈ told) :
    ∃ x ∈ heard, ∃ part, Ends (answer x.question) part x.answer ∧ y ∈ part ∧ part <:+: told := by
  induction h with
  | nil => cases hy
  | @cons q a _ part _ hq _ ih =>
    rcases List.mem_append.mp hy with hy | hy
    · exact ⟨⟨q, a⟩, by simp, part, hq, hy, (List.prefix_append _ _).isInfix⟩
    · obtain ⟨x, hx, part, hp, hm, hi⟩ := ih hy
      exact ⟨x, by simp [hx], part, hp, hm, hi.trans (List.suffix_append _ _).isInfix⟩

end

end Program

end ClusterOperator
