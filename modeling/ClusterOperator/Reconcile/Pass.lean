import ClusterOperator.Plan
import ClusterOperator.Program
import ClusterOperator.Reconcile.Failures
import ClusterOperator.Reconcile.Report
import ClusterOperator.Reconcile.Request

/-!
# One pass over a cluster

A pass loads the object, plans for what it finds, and runs the planned effects
in order against the provider and the store. It is a program: what the store,
the provider and the clock answer is left open.
-/

namespace ClusterOperator.Reconcile

open Resource (Cluster ObjectKey Metadata)

/-- When to be called again. -/
inductive Action where
  /-- When the object changes. -/
  | awaitChange
  | requeue (after : Span)
  deriving DecidableEq, Repr

structure Settings where
  /-- How long to wait between polls of a cluster that is being provisioned. -/
  watchInterval : Span
  /-- The team of clusters whose spec names none. -/
  team : Option String
  backoff : Backoff

namespace Settings

def start : Settings := ⟨.ofSeconds 10, none, .forPasses⟩

/-- A blank team counts as none. -/
def withTeam (s : Settings) (team : Option String) : Settings :=
  { s with team := team.filter fun id => !Text.isBlank id }

end Settings

/-- What a pass leaves for the metrics and the count of failures. -/
inductive Note where
  /-- The stored phase changed from one text to another. -/
  | moved (source target : String)
  | login (state : Provider.LoginState)
  | succeeded (key : ObjectKey)
  | failed (key : ObjectKey) (kind : String)
  deriving DecidableEq, Repr

/-- What a pass asks for. -/
inductive Question where
  | load (key : ObjectKey)
  /-- Replaces metadata and spec, which differ in the finalizers only. -/
  | replaceMetadata (c : Cluster)
  | replaceStatus (c : Cluster)
  | createCluster (r : Provider.CreateRequest)
  | clusterDetail (id : String)
  /-- Answers an empty detail if no cluster has the name. -/
  | clusterNamed (name : String)
  | deleteCluster (id : String)
  | connectionRole (id : String)
  | personalTeam
  | loginState
  | now
  | note (n : Note)

@[reducible] def Answer : Question → Type
  | .load _ => Except Store.Error Cluster
  | .replaceMetadata _ => Except Store.Error Cluster
  | .replaceStatus _ => Except Store.Error Cluster
  | .createCluster _ => Except Provider.Error Unit
  | .clusterDetail _ => Except Provider.Error Provider.ClusterDetail
  | .clusterNamed _ => Except Provider.Error Provider.ClusterDetail
  | .deleteCluster _ => Except Provider.Error Unit
  | .connectionRole _ => Except Provider.Error Provider.ConnectionRole
  | .personalTeam => Except Provider.Error String
  | .loginState => Provider.LoginState
  | .now => Timestamp
  | .note _ => Unit

abbrev Pass := ExceptT Error (Program Answer)

/-- A question, whatever it answers. -/
def ask (q : Question) : Pass (Answer q) := ExceptT.lift (.query q)

/-- A question to the store, whose failure ends the pass. -/
def fromStore {α : Type} (p : Program Answer (Except Store.Error α)) : Pass α :=
  ExceptT.mk (p.bind fun r => .done (r.mapError .store))

/-- A question to the provider, whose failure ends the pass. -/
def fromProvider {α : Type} (p : Program Answer (Except Provider.Error α)) : Pass α :=
  ExceptT.mk (p.bind fun r => .done (r.mapError .provider))

/-- Keeps the provider's cluster from being forgotten when the object goes. -/
def finalizer : String := "crunchybridge.com/bridgecluster-finalizer"

/-- Writes a phase, and answers the object as it is stored then. -/
def writePhase (c : Cluster) (phase : Phase) : Pass Cluster := do
  let now ← ask .now
  let status := (c.status.getD .empty).enter phase now
  let stored ← fromStore (.query (Question.replaceStatus { c with status := some status }))
  ask (.note (.moved (Phase.shown c.phaseText) phase.text))
  return stored

/-- The team of a new cluster: the spec's, else the operator's, else the
personal one. -/
def resolveTeam (s : Settings) (c : Cluster) : Pass String :=
  match c.spec.team? <|> s.team with
  | some id => return id
  | none => fromProvider (.query Question.personalTeam)

/-- A conflict means that the provider has the cluster already, most likely
from an earlier attempt. -/
def createCluster (s : Settings) (c : Cluster) : Pass Unit := do
  let team ← resolveTeam s c
  match ← ask (.createCluster (c.spec.createRequest team)) with
  | .ok () => return
  | .error (.conflict _) => return
  | .error e => throw (.provider e)

/-- The provider's detail, by id once it is known and by name before. -/
def lookUp (c : Cluster) : Pass Provider.ClusterDetail :=
  match c.clusterId with
  | some id => fromProvider (.query (Question.clusterDetail id))
  | none => fromProvider (.query (Question.clusterNamed c.spec.name))

/-- The phase after a detail was observed. -/
def promoted (phase : String) (d : Provider.ClusterDetail) : String :=
  if d.isReady then
    match Lifecycle.step? .creating .providerReady with
    | some step => step.target.text
    | none => phase
  else phase

/-- Takes over the detail and the connection in one write. Without a detail
there is nothing to do; without a connection it is left as it was. -/
def observeCluster (c : Cluster) : Pass Cluster := do
  let detail ← lookUp c
  if detail.isEmpty then return c
  let status ← ExceptT.mk (.done ((c.status.getD .empty).takeDetail detail))
  let connected :=
    match ← ask (.connectionRole detail.id) with
    | .ok role =>
      match status.connect role with
      | .ok connected => connected
      | .error _ => status
    | .error _ => status
  let now ← ask .now
  let after := { connected with phase := promoted status.phase detail }.stamp now
  let stored ← fromStore (.query (Question.replaceStatus { c with status := some after }))
  if after.phase ≠ status.phase then
    ask (.note (.moved (Phase.shown status.phase) Phase.ready.text))
  return stored

/-- A cluster that is gone already counts as deleted. -/
def deleteCluster (id : String) : Pass Unit := do
  match ← ask (.deleteCluster id) with
  | .ok () => return
  | .error .notFound => return
  | .error e => throw (.provider e)

/-- Runs one effect, and answers the object to go on with. -/
def runEffect (s : Settings) (c : Cluster) : Effect → Pass Cluster
  | .addFinalizer =>
    fromStore (.query (Question.replaceMetadata
      { c with metadata := c.metadata.addFinalizer finalizer }))
  | .removeFinalizer =>
    fromStore (.query (Question.replaceMetadata
      { c with metadata := c.metadata.removeFinalizer finalizer }))
  | .setPhase phase => writePhase c phase
  | .markDeleting =>
    if c.phaseText = Phase.deleting.text then return c
    else tryCatch (writePhase c .deleting) fun _ => return c
  | .createCluster => do
    createCluster s c
    return c
  | .observeCluster => observeCluster c
  | .deleteCluster id => do
    deleteCluster id
    return c

/-- Runs effects in order, up to the first that fails. -/
def runEffects (s : Settings) (c : Cluster) : List Effect → Pass Cluster
  | [] => return c
  | e :: es => do runEffects s (← runEffect s c e) es

def observe (c : Cluster) (phase : Phase) : Observation where
  phase := phase
  deletionRequested := c.metadata.isDeleting
  hasFinalizer := c.metadata.hasFinalizer finalizer
  clusterId := c.clusterId

def actionOf (s : Settings) : Requeue → Action
  | .onChange => .awaitChange
  | .watchInterval => .requeue s.watchInterval

/-- The pass without its bookkeeping. An object that is gone needs nothing. -/
def body (s : Settings) (key : ObjectKey) : Pass Action := do
  match ← ask (.load key) with
  | .error (.notFound _) => return .awaitChange
  | .error e => throw (.store e)
  | .ok c =>
    match Phase.ofText? c.phaseText with
    | none => throw (.unrecognizedPhase c.phaseText)
    | some phase =>
      let plan := Plan.make (observe c phase)
      let _ ← runEffects s c plan.effects
      return actionOf s plan.requeue

/-- How soon to try again after losing a race for a write. -/
def conflictDelay : Span := .ofSeconds 1

/-- Counts a pass. One that lost a race is tried again soon, and counts
neither as success nor as failure. -/
def settle (key : ObjectKey) (r : Except Error Action) : Program Answer (Except Error Action) :=
  match r with
  | .ok action => do
    Program.query (Question.note (.succeeded key))
    return .ok action
  | .error e =>
    if e.isConflict then return .ok (.requeue conflictDelay)
    else do
      Program.query (Question.note (.failed key e.kind))
      return .error e

/-- A whole pass, started by an event on an object with this metadata. -/
def reconcile (s : Settings) (event : Metadata) : Program Answer (Except Error Action) :=
  match event.ns with
  | none => return .error (.missingKey ".metadata.namespace")
  | some ns => do
    let key : ObjectKey := ⟨ns, event.anyName⟩
    let r ← (body s key).run
    let login ← Program.query Question.loginState
    Program.query (Question.note (.login login))
    settle key r

/-- Counts a failed pass and says how long to wait. -/
def errorPolicy (schedule : Backoff) (f : Failures) (event : Metadata) (e : Error) (draw : Float) :
    Span × Failures :=
  let key := event.key.text
  (retryDelay schedule e (f.count key) draw, f.record key)

end ClusterOperator.Reconcile
