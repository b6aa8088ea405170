import ClusterOperator.Proofs.Provider.Operation
import ClusterOperator.Proofs.Provider.SingleFlight

/-!
# An operation at its session

While an operation waits for its check or for a reply, anything may happen at the session. So a
login may end between any two of its requests; but what an operation sends follows at once
on a check, and has the token that was issued last.
-/

namespace ClusterOperator.Provider

variable {S : Type}

/-! ## Requests of one task -/

namespace Traffic

variable {settings : SessionSettings} {w w' w₀ : Traffic S} {e : Event S} {past : List (Event S)}
  {i : Nat}

/-- Not past its source, if it was started at all. -/
def Unasked (w : Traffic S) (i : Nat) : Prop := ∀ stage, w.tasks[i]? = some stage → 2 ≤ stage.rank

/-- The task looks whether a login is needed. -/
def Looks (w : Traffic S) (i : Nat) (e : Event S) : Prop :=
  e.isMoveOf i ∧ (w.tasks[i]? = some .pinged ∨ w.tasks[i]? = some (.entered .ping))

theorem Looks.unasked (hl : Looks w i e) : w.Unasked i := by
  intro stage hi
  rcases hl.2 with hi' | hi'
  · obtain rfl := Option.some.inj (hi'.symm.trans hi)
    simp [Stage.rank]
  · obtain rfl := Option.some.inj (hi'.symm.trans hi)
    simp [Stage.rank]

end Traffic

/-! ## An operation under way -/

namespace Client

variable {α : Type}

/-- Where an operation stands. Only in the last two it waits. -/
inductive Standing (α : Type) where
  | ready (p : Program Answer (Except Error α))
  /-- Its check is this task of the session. -/
  | checking (task : Nat) (next : LoginState → Program Answer (Except Error α))
  | sending (next : Except Error Http.Response → Program Answer (Except Error α))

structure Usage (S α : Type) where
  traffic : Traffic S
  standing : Standing α

inductive Moment (S : Type) where
  | begun (task : Nat)
  | happened (e : Traffic.Event S)
  /-- The event that ends a check, and the state right after it. -/
  | checked (task : Nat) (e : Traffic.Event S) (state : LoginState)
  | saw (state : LoginState)
  | sent (request : Http.Request) (now : Instant)
  | answered (reply : Except Error Http.Response)

def Moment.event? : Moment S → Option (Traffic.Event S)
  | .begun _ => some (.called .ping)
  | .happened e => some e
  | .checked _ e _ => some e
  | .sent _ now => some (.used now)
  | _ => none

def events (log : List (Moment S)) : List (Traffic.Event S) := log.filterMap Moment.event?

namespace Usage

def start (w : Traffic S) (o : Operation α) : Usage S α := ⟨w, .ready o.call.run⟩

inductive Step (settings : SessionSettings) (c : Client) : Usage S α → Moment S → Usage S α → Prop
  | begin {w w' : Traffic S} {next : LoginState → Program Answer (Except Error α)} :
    Traffic.Step settings w (.called .ping) w' →
    Step settings c ⟨w, .ready (.ask .check next)⟩ (.begun w.tasks.length)
      ⟨w', .checking w.tasks.length next⟩
  | wait {w w' : Traffic S} {e : Traffic.Event S} {task : Nat}
    {next : LoginState → Program Answer (Except Error α)} : Traffic.Step settings w e w' →
    w'.tasks[task]? ≠ some .finished →
    Step settings c ⟨w, .checking task next⟩ (.happened e) ⟨w', .checking task next⟩
  | check {w w' : Traffic S} {e : Traffic.Event S} {task : Nat}
    {next : LoginState → Program Answer (Except Error α)} : Traffic.Step settings w e w' →
    w'.tasks[task]? = some .finished →
    Step settings c ⟨w, .checking task next⟩ (.checked task e w'.session.state)
      ⟨w', .ready (next w'.session.state)⟩
  | look {w : Traffic S} {next : LoginState → Program Answer (Except Error α)} :
    Step settings c ⟨w, .ready (.ask .state next)⟩ (.saw w.session.state)
      ⟨w, .ready (next w.session.state)⟩
  | send {w w' : Traffic S} {r : Request}
    {next : Except Error Http.Response → Program Answer (Except Error α)} (now : Instant) :
    Traffic.Step settings w (.used now) w' →
    Step settings c ⟨w, .ready (.ask (.send r) next)⟩ (.sent (c.onWire w.session.token r) now)
      ⟨w', .sending next⟩
  | linger {w w' : Traffic S} {e : Traffic.Event S}
    {next : Except Error Http.Response → Program Answer (Except Error α)} :
    Traffic.Step settings w e w' →
    Step settings c ⟨w, .sending next⟩ (.happened e) ⟨w', .sending next⟩
  | reply {w : Traffic S} {reply : Except Error Http.Response}
    {next : Except Error Http.Response → Program Answer (Except Error α)} :
    Step settings c ⟨w, .sending next⟩ (.answered reply) ⟨w, .ready (next reply)⟩

/-- What can come of an operation, with all that was, the latest first. -/
inductive Runs (settings : SessionSettings) (c : Client) (u₀ : Usage S α) :
    List (Moment S) → Usage S α → Prop
  | refl : Runs settings c u₀ [] u₀
  | step {log : List (Moment S)} {u u' : Usage S α} {m : Moment S} : Runs settings c u₀ log u →
    Step settings c u m u' → Runs settings c u₀ (m :: log) u'

variable {settings : SessionSettings} {c : Client} {u u' u₀ : Usage S α} {m : Moment S}
  {log before after : List (Moment S)} {w₀ : Traffic S} {o : Operation α}

theorem Runs.split (h : Runs settings c u₀ (after ++ m :: before) u) : ∃ v v',
    Runs settings c u₀ before v ∧ Step settings c v m v' ∧ Runs settings c v' after u := by
  generalize hl : after ++ m :: before = log at h
  induction h generalizing after with
  | refl => simp at hl
  | @step log u u' m' h hs ih =>
    cases after with
    | nil =>
      obtain ⟨rfl, rfl⟩ := List.cons.inj hl
      exact ⟨u, u', h, hs, .refl⟩
    | cons m₁ after =>
      obtain ⟨hm, hl⟩ := List.cons.inj hl
      obtain ⟨v, v', hb, hv, ha⟩ := ih hl
      exact ⟨v, v', hb, hv, hm ▸ ha.step hs⟩

theorem Step.traffic (h : Step settings c u m u') :
    (∃ e, m.event? = some e ∧ Traffic.Step settings u.traffic e u'.traffic) ∨
      m.event? = none ∧ u'.traffic = u.traffic := by
  cases h with
  | begin h => exact .inl ⟨_, rfl, h⟩
  | wait h _ => exact .inl ⟨_, rfl, h⟩
  | check h _ => exact .inl ⟨_, rfl, h⟩
  | send _ h => exact .inl ⟨_, rfl, h⟩
  | linger h => exact .inl ⟨_, rfl, h⟩
  | look => exact .inr ⟨rfl, rfl⟩
  | reply => exact .inr ⟨rfl, rfl⟩

/-- For the session, an operation is traffic like any other. -/
theorem Runs.traffic (h : Runs settings c u₀ log u) :
    Traffic.Runs settings u₀.traffic (events log) u.traffic := by
  induction h with
  | refl => exact .refl
  | @step log u u' m _ hs ih =>
    unfold events at ih ⊢
    rcases hs.traffic with ⟨e, he, ht⟩ | ⟨he, ht⟩
    · rw [List.filterMap_cons_some he]
      exact ih.step ht
    · rw [List.filterMap_cons_none he, ht]
      exact ih

/-! ## What an operation is about to do -/

/-- What is left of an operation is careful, or its check has just found the login active. -/
inductive Sound : List (Moment S) → Usage S α → Prop
  | careful {log : List (Moment S)} {w : Traffic S} {p : Program Answer (Except Error α)} :
    Careful p → Sound log ⟨w, .ready p⟩
  | cleared {earlier : List (Moment S)} {w : Traffic S} {task : Nat} {e : Traffic.Event S}
    {r : Request} {next : Except Error Http.Response → Program Answer (Except Error α)} :
    w.session.state = .active → (∀ reply, Careful (next reply)) →
    Sound (.checked task e .active :: earlier) ⟨w, .ready (.ask (.send r) next)⟩
  | checking {log : List (Moment S)} {w : Traffic S} {task : Nat}
    {next : LoginState → Program Answer (Except Error α)} {r : Request}
    {sent : Except Error Http.Response → Program Answer (Except Error α)} :
    (∀ state e, state.check = .error e → next state = .done (.error e)) →
    next .active = .ask (.send r) sent → (∀ reply, Careful (sent reply)) →
    Sound log ⟨w, .checking task next⟩
  | sending {log : List (Moment S)} {w : Traffic S}
    {next : Except Error Http.Response → Program Answer (Except Error α)} :
    (∀ reply, Careful (next reply)) → Sound log ⟨w, .sending next⟩

theorem check_error {state : LoginState} (h : state ≠ .active) : ∃ e, state.check = .error e := by
  cases state with
  | active => exact absurd rfl h
  | _ => exact ⟨_, rfl⟩

theorem Step.sound (h : Step settings c u m u') (hu : Sound log u) : Sound (m :: log) u' := by
  cases h with
  | begin _ =>
    cases hu with
    | careful hc =>
      cases hc with
      | check he hs hr => exact .checking he hs hr
  | wait _ _ =>
    cases hu with
    | checking he hs hr => exact .checking he hs hr
  | @check w w' e task next _ _ =>
    cases hu with
    | checking he hs hr =>
      by_cases hact : w'.session.state = .active
      · rw [hact, hs]
        exact .cleared hact hr
      · obtain ⟨e, hf⟩ := check_error hact
        rw [he _ e hf]
        exact .careful .done
  | look =>
    cases hu with
    | careful hc =>
      cases hc with
      | state hn => exact .careful (hn _)
  | send _ _ =>
    cases hu with
    | careful hc => cases hc
    | cleared _ hr => exact .sending hr
  | linger _ =>
    cases hu with
    | sending hr => exact .sending hr
  | reply =>
    cases hu with
    | sending hr => exact .careful (hr _)

theorem Runs.sound (h : Runs settings c (.start w₀ o) log u) : Sound log u := by
  induction h with
  | refl => exact .careful o.careful
  | step _ hs ih => exact hs.sound ih

namespace Sample

def client : Client := ⟨"https://api.example.com", "https://api.example.com", "agent", 0⟩

def loggingIn : List (Moment Unit) :=
  [.happened (.moved 0 (.credential (.ok ⟨"key", "secret"⟩)) 0 0),
    .happened (.moved 0 .none 0 0), .happened (.moved 0 .none 0 0),
    .happened (.moved 0 .none 0 0), .happened (.moved 0 .none 0 0), .begun 0]

def loggedIn : Traffic.Event Unit := .moved 0 (.token (.issued Traffic.Sample.token)) 0 0

def request : Http.Request := client.onWire "token" (.get "/teams")

theorem runs : ∃ u, Runs .start client (.start Traffic.Sample.begun .teams)
    (.sent request 0 :: .checked 0 loggedIn .active :: loggingIn) u := by
  have move {w w' : Traffic Unit} {log : List (Moment Unit)}
      {next : LoginState → Program Answer (Except Error TeamList)}
      (h : Runs .start client (.start Traffic.Sample.begun .teams) log ⟨w, .checking 0 next⟩)
      (input : Input) (hs : Traffic.Step .start w (.moved 0 input 0 0) w')
      (hn : w'.tasks[0]? ≠ some .finished) :
      Runs .start client (.start Traffic.Sample.begun .teams) (.happened (.moved 0 input 0 0) :: log)
        ⟨w', .checking 0 next⟩ := h.step (.wait hs hn)
  have h₁ : Runs .start client (.start Traffic.Sample.begun .teams) [.begun 0]
      ⟨⟨Traffic.Sample.begun.session, [.pinged]⟩, .checking 0 _⟩ := .step .refl (.begin .called)
  have h₂ := move h₁ .none (.moved rfl rfl) nofun
  have h₃ := move h₂ .none (.moved rfl rfl) nofun
  have h₄ := move h₃ .none (.moved rfl rfl) nofun
  have h₅ := move h₄ .none (.moved rfl rfl) nofun
  have h₆ := move h₅ (.credential (.ok ⟨"key", "secret"⟩)) (.moved rfl rfl) nofun
  have hs : Traffic.Step .start ⟨Traffic.Sample.begun.session, [.requesting ⟨"key", "secret"⟩]⟩
      loggedIn ⟨Traffic.Sample.active, [.finished]⟩ := .moved rfl rfl
  exact ⟨_, (h₆.step (.check hs rfl)).step (.send 0 .used)⟩

end Sample

end Usage

end Client

end ClusterOperator.Provider
