import ClusterOperator.Backoff
import ClusterOperator.Provider.Error
import ClusterOperator.Provider.Types
import ClusterOperator.Version

/-!
# Logins that keep themselves alive

A session holds the token of one login. It renews a token that is in use shortly
before it runs out, lets an unused one run out, and tries again after a failed
login with growing delays. Each function here is one step under the session's
lock.
-/

namespace ClusterOperator.Provider

/-- Nanoseconds on a clock that is never set back. -/
abbrev Instant := Nat

/-- A timer that is replaced whenever it is armed again. A task that was started
by it is up to date as long as the generation is the one it was armed with, which
counts how often the timer was armed or called off. -/
structure Timer where
  generation : Nat
  due : Option Instant
  deriving DecidableEq, Repr

namespace Timer

def idle : Timer := ⟨0, none⟩

def cancel (t : Timer) : Timer := ⟨t.generation + 1, none⟩

def arm (t : Timer) (due : Instant) : Timer := ⟨t.generation + 1, some due⟩

/-- Goes off: what it was armed for is now a task of its own. -/
def fire (t : Timer) : Timer := { t with due := none }

end Timer

inductive TimerKind where
  | retry
  | renew
  | expire
  deriving DecidableEq, Repr

structure SessionSettings where
  /-- How long before its end a token is renewed. -/
  refreshBuffer : Span
  backoff : Backoff
  userAgent : String

namespace SessionSettings

def start : SessionSettings := ⟨.ofSeconds 15, .forLogins, agent version⟩

end SessionSettings

/-- A login, whose credential comes from a source named by an `S`. -/
structure Session (S : Type) where
  endpoint : String
  state : LoginState
  token : String
  tokenId : String
  cursor : Cursor Float
  source : S
  retry : Timer
  renew : Timer
  expire : Timer
  lastUse : Option Instant
  lastRefresh : Option Instant

namespace Session

variable {S : Type}

def start (settings : SessionSettings) (endpoint : String) (source : S) : Session S :=
  ⟨endpoint, .unstarted, "", "", settings.backoff.start, source, .idle, .idle, .idle, none, none⟩

def timer (s : Session S) : TimerKind → Timer
  | .retry => s.retry
  | .renew => s.renew
  | .expire => s.expire

def setTimer (s : Session S) (kind : TimerKind) (t : Timer) : Session S :=
  match kind with
  | .retry => { s with retry := t }
  | .renew => { s with renew := t }
  | .expire => { s with expire := t }

def arm (s : Session S) (kind : TimerKind) (due : Instant) : Session S :=
  s.setTimer kind ((s.timer kind).arm due)

def cancel (s : Session S) (kind : TimerKind) : Session S :=
  s.setTimer kind (s.timer kind).cancel

def fire (s : Session S) (kind : TimerKind) : Session S :=
  s.setTimer kind (s.timer kind).fire

/-- Failed logins in a row. -/
def failedAttempts (s : Session S) : Nat := s.cursor.attempt

/-- Hands out the token and marks the session as used. -/
def use (s : Session S) (now : Instant) : String × Session S :=
  (s.token, { s with lastUse := some now })

/-- Whether the session was used since its token was issued. -/
def isUsed (s : Session S) : Bool :=
  match s.lastUse, s.lastRefresh with
  | some used, some refreshed => refreshed < used
  | some _, none => true
  | none, _ => false

def replaceSource (s : Session S) (source : S) : Session S := { s with source := source }

/-- Plans a login in place of the one that was planned before. -/
def schedule (s : Session S) (due : Instant) : Session S := s.arm .retry due

/-- A session that is to log in as soon as it is there. -/
def opened (settings : SessionSettings) (now : Instant) (endpoint : String) (source : S) : Session S :=
  (start settings endpoint source).schedule now

/-- The token has run out. -/
def expireLogin (s : Session S) : Session S :=
  { s with
    state := if s.state = LoginState.active then .inactive else s.state
    token := "" }.cancel .renew

/-- Plans the next attempt after one that failed. -/
def retryLater (settings : SessionSettings) (now : Instant) (draw : Float) (s : Session S) :
    Session S :=
  let (delay, cursor) := s.cursor.next draw
  { s with cursor := cursor }.arm .retry (now + (settings.backoff.span delay).nanos)

def succeed (settings : SessionSettings) (now : Instant) (token : IssuedToken) (s : Session S) :
    Session S :=
  let lifetime : Span := .ofSeconds token.expiresIn.toNat
  let active : Session S :=
    { s with
      token := token.accessToken
      tokenId := token.id
      state := .active
      cursor := s.cursor.reset
      lastRefresh := some now }
  ((active.cancel .retry).arm .expire (now + lifetime.nanos)).arm .renew
    (now + (lifetime.minus settings.refreshBuffer).nanos)

/-- The provider refused the credential. -/
def reject (settings : SessionSettings) (now : Instant) (draw : Float) (s : Session S) : Session S :=
  { s with state := .rejected, token := "" }.retryLater settings now draw

/-- The attempt failed for another reason, which tells nothing of a token that
is still good. -/
def fail (settings : SessionSettings) (now : Instant) (draw : Float) (s : Session S) : Session S :=
  { s with state := if s.state = LoginState.unstarted then .failed else s.state }.retryLater
    settings now draw

/-- For logs. -/
def describe (s : Session S) : String :=
  "Session \x7b auth_url: " ++ Text.quoted s.endpoint ++ ", state: " ++ s.state.name ++ ", .. \x7d"

end Session

end ClusterOperator.Provider
