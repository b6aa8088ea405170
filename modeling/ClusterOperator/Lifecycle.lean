import ClusterOperator.Phase

/-!
# Legal changes of phase

The table of steps, and what a table lookup answers.
-/

namespace ClusterOperator

/-- What moves a cluster from one phase to another. -/
inductive Event where
  /-- The deletion guard is recorded on the resource. -/
  | finalizerAttached
  /-- The provider took the create request, or already had the cluster. -/
  | createAccepted
  | providerReady
  | deletionRequested
  deriving DecidableEq, Repr

namespace Event

def all : List Event := [.finalizerAttached, .createAccepted, .providerReady, .deletionRequested]

def name : Event → String
  | .finalizerAttached => "FinalizerAttached"
  | .createAccepted => "CreateAccepted"
  | .providerReady => "ProviderReady"
  | .deletionRequested => "DeletionRequested"

end Event

namespace Lifecycle

/-- A legal change of phase. -/
structure Step where
  source : Phase
  target : Phase
  event : Event
  description : String
  deriving DecidableEq, Repr

/-- Every legal change. Nothing leaves `deleting`: the resource goes away once
its guard is removed. -/
def table : List Step :=
  [⟨.unknown, .pending, .finalizerAttached, "Finalizer attached, cluster pending creation"⟩,
    ⟨.pending, .creating, .createAccepted, "Create request accepted by provider"⟩,
    ⟨.creating, .ready, .providerReady, "Provider reports cluster ready"⟩,
    ⟨.unknown, .deleting, .deletionRequested, "Deletion requested before setup"⟩,
    ⟨.pending, .deleting, .deletionRequested, "Deletion requested before creation"⟩,
    ⟨.creating, .deleting, .deletionRequested, "Deletion requested during provisioning"⟩,
    ⟨.ready, .deleting, .deletionRequested, "Cluster deletion requested"⟩]

/-- The step that an event makes from a phase, if there is one. -/
def step? (phase : Phase) (event : Event) : Option Step :=
  table.find? fun s => s.source = phase ∧ s.event = event

def allows (phase : Phase) (event : Event) : Bool :=
  table.any fun s => s.source = phase ∧ s.event = event

/-- The events that can happen in a phase, in the order of the table. -/
def validEvents (phase : Phase) : List Event :=
  (table.filter (·.source = phase)).map (·.event)

/-- Applies events in order, staying in place when one is refused. -/
def run (phase : Phase) : List Event → Phase
  | [] => phase
  | e :: es => run (((step? phase e).map (·.target)).getD phase) es

end Lifecycle

end ClusterOperator
