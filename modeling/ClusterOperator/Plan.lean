import ClusterOperator.Lifecycle

/-!
# Planning one pass

From what a pass reads off a resource follows the list of effects it runs, in
order, and when it asks to be called again.
-/

namespace ClusterOperator

/-- What a plan is made from. -/
structure Observation where
  phase : Phase
  deletionRequested : Bool
  hasFinalizer : Bool
  /-- The provider's id of the cluster, as recorded in the status. -/
  clusterId : Option String
  deriving DecidableEq, Repr

inductive Effect where
  | addFinalizer
  | removeFinalizer
  /-- Writes the phase to the status. -/
  | setPhase (phase : Phase)
  /-- Marks the resource as deleting; its failure is passed over. -/
  | markDeleting
  | createCluster
  /-- Fetches the provider's detail into the status and promotes a ready cluster. -/
  | observeCluster
  | deleteCluster (id : String)
  deriving DecidableEq, Repr

def Effect.callsProvider : Effect → Bool
  | .createCluster | .observeCluster | .deleteCluster _ => true
  | _ => false

/-- For logs. -/
def Effect.name : Effect → String
  | .addFinalizer => "AddFinalizer"
  | .removeFinalizer => "RemoveFinalizer"
  | .setPhase _ => "SetPhase"
  | .markDeleting => "MarkDeleting"
  | .createCluster => "CreateCluster"
  | .observeCluster => "ObserveCluster"
  | .deleteCluster _ => "DeleteCluster"

/-- What the effect is about, beyond its name. -/
def Effect.subject? : Effect → Option String
  | .setPhase phase => some phase.text
  | .deleteCluster id => some id
  | _ => none

inductive Requeue where
  /-- Only when the resource changes. -/
  | onChange
  /-- After the interval at which the provider is polled. -/
  | watchInterval
  deriving DecidableEq, Repr

/-- What one pass is to do. `target` is the phase once every effect succeeded;
an observation may still promote `creating` to `ready`. -/
structure Plan where
  source : Phase
  target : Phase
  effects : List Effect
  requeue : Requeue
  description : String
  deriving DecidableEq, Repr

namespace Plan

def stay (phase : Phase) (description : String) : Plan :=
  ⟨phase, phase, [], .onChange, description⟩

/-- The effects of an event, if the event can happen in the phase. -/
def advance (phase : Phase) (event : Event) (effects : List Effect) : Plan :=
  match Lifecycle.step? phase event with
  | some step => ⟨phase, step.target, effects, .onChange, step.description⟩
  | none => stay phase "No transition for phase"

/-- Deletion of a resource that still holds the guard: the provider's cluster
goes first if its id is known, the guard last. -/
def forDeletion (phase : Phase) (clusterId : Option String) : Plan where
  source := phase
  target := .deleting
  effects :=
    .markDeleting ::
      (match clusterId with
        | some id => if id.isEmpty then [] else [.deleteCluster id]
        | none => []) ++ [.removeFinalizer]
  requeue := .onChange
  description :=
    match Lifecycle.step? phase .deletionRequested with
    | some step => step.description
    | none => "Continuing deletion"

/-- Deletion goes before everything else. -/
def make (o : Observation) : Plan :=
  if o.deletionRequested then
    if o.hasFinalizer then forDeletion o.phase o.clusterId
    else stay o.phase "Deletion pending, nothing to clean up"
  else
    match o.phase with
    | .unknown =>
      advance .unknown .finalizerAttached
        ((if o.hasFinalizer then [] else [.addFinalizer]) ++ [.setPhase .pending])
    | .pending => advance .pending .createAccepted [.createCluster, .setPhase .creating]
    | .creating =>
      ⟨.creating, .creating, [.observeCluster], .watchInterval,
        "Polling provider for provisioning progress"⟩
    | .ready => stay .ready "Cluster ready"
    | .deleting => stay .deleting "Deleting without deletion request"

end Plan

end ClusterOperator
