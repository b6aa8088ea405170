import ClusterOperator.Store.Memory

/-!
# A store that can be made to fail
-/

namespace ClusterOperator.Simulation

open Resource (ObjectKey)

/-- A store with the failures that are in store for its callers. -/
structure FaultyStore (α : Type) where
  memory : Store.Memory α
  loadError : Option Store.Error
  metadataError : Option Store.Error
  statusError : Option Store.Error
  /-- The next write loses a race. -/
  conflictNext : Bool

namespace FaultyStore

variable {α : Type}

def empty : FaultyStore α := ⟨.empty, none, none, none, false⟩

def load (s : FaultyStore α) (key : ObjectKey) : Except Store.Error α :=
  match s.loadError with
  | some e => .error e
  | none =>
    match s.memory.get? key with
    | some a => .ok a
    | none => .error (.notFound key.text)

/-- A write, unless a failure comes before it. -/
def write (s : FaultyStore α) (fault : Option Store.Error)
    (f : Store.Memory α → Except Store.Error α × Store.Memory α) :
    Except Store.Error α × FaultyStore α :=
  match fault with
  | some e => (.error e, s)
  | none =>
    if s.conflictNext then (.error (.conflict "injected conflict"), { s with conflictNext := false })
    else
      let (r, memory) := f s.memory
      (r, { s with memory := memory })

variable [Store.Kept α]

def replaceMetadata (s : FaultyStore α) (a : α) : Except Store.Error α × FaultyStore α :=
  s.write s.metadataError (·.replaceMetadata a)

def replaceStatus (s : FaultyStore α) (a : α) : Except Store.Error α × FaultyStore α :=
  s.write s.statusError (·.replaceStatus a)

end FaultyStore

end ClusterOperator.Simulation
