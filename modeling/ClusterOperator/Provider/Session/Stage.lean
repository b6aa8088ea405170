import ClusterOperator.Program
import ClusterOperator.Provider.Session

/-!
# What goes on at a session

Pings, logins and timers that went off work on a session side by side. Each is
in one stage at a time, and a step takes it to the next. Between steps others may
work on the same session, but only one attempt to log in at a time gets past the
gate.
-/

namespace ClusterOperator.Provider

/-- For what an attempt to log in stands at the gate. -/
inductive Entry where
  /-- Logs in if that is still needed then. -/
  | ping
  | login
  /-- Logs in if the retry timer still has this generation then. -/
  | retry (generation : Nat)
  deriving DecidableEq, Repr

/-- Where a task on a session has got to. -/
inductive Stage (S : Type) where
  /-- A ping that has not looked at the session yet. -/
  | pinged
  /-- A timer has gone off. -/
  | fired (kind : TimerKind) (generation : Nat)
  /-- A renewal that has not looked yet whether the session was used. -/
  | renewing
  | expiring
  | waiting (entry : Entry)
  /-- Through the gate, with a last look to take. -/
  | entered (entry : Entry)
  | admitted
  /-- Waits for the source's credential. -/
  | reading (source : S)
  /-- Waits for the provider's token. -/
  | requesting (credential : Credential)
  | finished
  deriving DecidableEq, Repr

/-- How the provider answers a request for a token. -/
inductive TokenAnswer where
  | issued (token : IssuedToken)
  | refused
  | failed
  deriving DecidableEq, Repr

/-- What a step is taken with. -/
inductive Input where
  | none
  | credential (r : Except CredentialError Credential)
  | token (r : TokenAnswer)

namespace Stage

variable {S : Type}

/-- Whether the task keeps others from logging in. -/
def holdsGate : Stage S → Bool
  | .entered _ | .admitted | .reading _ | .requesting _ => true
  | _ => false

/-- A bound on the steps that are left. -/
def rank : Stage S → Nat
  | .fired _ _ => 7
  | .pinged | .renewing => 6
  | .waiting _ => 5
  | .entered _ => 4
  | .admitted => 3
  | .reading _ => 2
  | .requesting _ | .expiring => 1
  | .finished => 0

/-- What a timer is for, once it has gone off. -/
def ofTimer (kind : TimerKind) (generation : Nat) : Stage S :=
  match kind with
  | .retry => .waiting (.retry generation)
  | .renew => .renewing
  | .expire => .expiring

/-- Whether an attempt is still wanted once it is through the gate. -/
def isWanted (s : Session S) : Entry → Bool
  | .ping => s.state.needsLogin
  | .login => true
  | .retry generation => s.retry.generation = generation

/-- One step, at an instant and with a draw for a delay. There is none while the
task waits for the gate or for another input. -/
def step? (settings : SessionSettings) (now : Instant) (draw : Float) (gateFree : Bool)
    (s : Session S) : Stage S → Input → Option (Session S × Stage S)
  | .pinged, .none => some (s, if s.state.needsLogin then .waiting .ping else .finished)
  | .fired kind generation, .none =>
    some (s, if (s.timer kind).generation = generation then ofTimer kind generation else .finished)
  | .renewing, .none => some (s, if s.isUsed then .waiting .login else .finished)
  | .expiring, .none => some (s.expireLogin, .finished)
  | .waiting entry, .none => if gateFree then some (s, .entered entry) else none
  | .entered entry, .none => some (s, if isWanted s entry then .admitted else .finished)
  | .admitted, .none => some (s, .reading s.source)
  | .reading _, .credential (.ok c) =>
    if c.isZero then some (s.retryLater settings now draw, .finished) else some (s, .requesting c)
  | .reading _, .credential (.error _) => some (s.retryLater settings now draw, .finished)
  | .requesting _, .token (.issued token) => some (s.succeed settings now token, .finished)
  | .requesting _, .token .refused => some (s.reject settings now draw, .finished)
  | .requesting _, .token .failed => some (s.fail settings now draw, .finished)
  | _, _ => none

theorem rank_step {settings : SessionSettings} {now : Instant} {draw : Float} {gateFree : Bool}
    {s s' : Session S} {stage stage' : Stage S} {input : Input}
    (h : step? settings now draw gateFree s stage input = some (s', stage')) :
    stage'.rank < stage.rank := by
  unfold step? at h
  split at h
  case h_2 kind _ =>
    obtain ⟨-, rfl⟩ := Prod.mk.inj (Option.some.inj h)
    split
    · cases kind <;> simp [ofTimer, rank]
    · simp [rank]
  case h_5 | h_8 =>
    split at h
    · obtain ⟨-, rfl⟩ := Prod.mk.inj (Option.some.inj h)
      simp [rank]
    · cases h <;> simp [rank]
  case h_1 | h_3 | h_6 =>
    obtain ⟨-, rfl⟩ := Prod.mk.inj (Option.some.inj h)
    split <;> simp [rank]
  case h_13 => cases h
  all_goals
    obtain ⟨-, rfl⟩ := Prod.mk.inj (Option.some.inj h)
    simp [rank]

/-- What a task asks of others. -/
inductive Question (S : Type) where
  | credential (source : S)
  | token (endpoint : String) (credential : Credential)

@[reducible] def Answer : Question S → Type
  | .credential _ => Except CredentialError Credential
  | .token _ _ => TokenAnswer

def question? (s : Session S) : Stage S → Option (Question S)
  | .reading source => some (.credential source)
  | .requesting c => some (.token s.endpoint c)
  | _ => none

def inputOf : (q : Question S) → Answer q → Input
  | .credential _, r => .credential r
  | .token _ _, r => .token r

/-- Takes a task to its end while nobody else is at the session. -/
def complete (settings : SessionSettings) (now : Instant) (draw : Float) (s : Session S)
    (stage : Stage S) : Program (Answer (S := S)) (Session S) :=
  let goOn (input : Input) : Program (Answer (S := S)) (Session S) :=
    match _h : step? settings now draw true s stage input with
    | some (s', stage') => complete settings now draw s' stage'
    | none => .done s
  match question? s stage with
  | some q => .ask q fun a => goOn (inputOf q a)
  | none => goOn .none
  termination_by stage.rank
  decreasing_by all_goals exact rank_step ‹_›

end Stage

end ClusterOperator.Provider
