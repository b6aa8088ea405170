import ClusterOperator.Program
import ClusterOperator.Provider.Labels
import ClusterOperator.Provider.Session

/-!
# Sessions that are shared

Clients of the same endpoint with the same credential share one session. The
cache counts who holds it. Taking hold and letting go are one step each; a lookup
is a program, because it reads credentials on the way.
-/

namespace ClusterOperator.Provider

abbrev SessionId := Nat

structure Cache.Entry where
  label : String
  session : SessionId
  holders : Nat
  deriving DecidableEq, Repr

/-- Shared sessions by their labels. -/
structure Cache where
  entries : List Cache.Entry
  deriving DecidableEq, Repr

namespace Cache

def empty : Cache := ⟨[]⟩

def size (c : Cache) : Nat := c.entries.length

def find? (c : Cache) (label : String) : Option Entry := c.entries.find? (·.label = label)

def holders? (c : Cache) (session : SessionId) : Option Nat :=
  (c.entries.find? (·.session = session)).map (·.holders)

def contains (c : Cache) (session : SessionId) : Bool := (c.holders? session).isSome

/-- The session that a lookup took hold of, and whether it was there before. -/
structure Hold where
  session : SessionId
  known : Bool
  deriving DecidableEq, Repr

/-- Takes hold of the session under a label, which is the given one if there was
none. -/
def attach (c : Cache) (label : String) (fresh : SessionId) : Hold × Cache :=
  match c.find? label with
  | some e =>
    (⟨e.session, true⟩,
      ⟨c.entries.map fun e => if e.label = label then { e with holders := e.holders + 1 } else e⟩)
  | none => (⟨fresh, false⟩, ⟨c.entries ++ [⟨label, fresh, 1⟩]⟩)

/-- Gives up an entry that nobody holds and whose token has run out. An active
session stays for whoever comes next. -/
def isIdle (isInactive : SessionId → Bool) (e : Entry) : Bool :=
  e.holders = 0 && isInactive e.session

/-- Lets go of a session, and sweeps the whole cache. -/
def release (c : Cache) (session : SessionId) (isInactive : SessionId → Bool) : Cache :=
  let entries := c.entries.map fun e =>
    if e.session = session then { e with holders := e.holders - 1 } else e
  ⟨entries.filter fun e => !isIdle isInactive e⟩

/-! ## Looking up -/

inductive Question (S : Type) where
  | read (source : S)
  /-- Takes hold of a session. A new one has this endpoint and this source, and
  is to log in at once. -/
  | attach (label endpoint : String) (source : S)
  | sourceOf (session : SessionId)
  | replaceSource (session : SessionId) (source : S)
  | ping (session : SessionId)

@[reducible] def Answer {S : Type} : Question S → Type
  | .read _ => Except CredentialError Credential
  | .attach _ _ _ => Hold
  | .sourceOf _ => S
  | .replaceSource _ _ => Unit
  | .ping _ => Unit

variable {S : Type}

def ask (q : Question S) : Program (Answer (S := S)) (Answer q) := .query q

/-- Gives a session that was there the caller's source, unless its own yields the
same credential still. -/
def repair [DecidableEq S] (session : SessionId) (source : S) (credential : Credential) :
    Program (Answer (S := S)) Unit := do
  let current ← ask (.sourceOf session)
  if current = source then return
  let existing ← ask (.read current)
  if existing.toOption = some credential then return
  ask (.replaceSource session source)
  ask (.ping session)

/-- The session for an endpoint and a source. The source is read first: one that
cannot be read gets no session. -/
def lookUp [DecidableEq S] (endpoint : String) (source : S) :
    Program (Answer (S := S)) (Except CredentialError SessionId) := do
  match ← ask (.read source) with
  | .error e => return .error e
  | .ok credential =>
    let hold ← ask (.attach (sessionLabel endpoint credential) endpoint source)
    if hold.known then repair hold.session source credential
    return .ok hold.session

end Cache

end ClusterOperator.Provider
