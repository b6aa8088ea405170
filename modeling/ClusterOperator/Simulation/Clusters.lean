import ClusterOperator.Simulation.Surroundings

/-!
# Passes over clusters against a scripted provider
-/

namespace ClusterOperator.Simulation

open Resource (Cluster Metadata)
open Reconcile (Question Answer)

/-- A call of the provider, with what it was given. -/
inductive Call where
  | create (r : Provider.CreateRequest)
  | detail (id : String)
  | byName (name : String)
  | delete (id : String)
  | role (id : String)
  | team
  deriving DecidableEq, Repr

/-- An accepted write. -/
inductive Write where
  | metadata (finalizers : List String)
  | status (status : Option Cluster.Status)

/-- What the provider is to answer. -/
structure ScriptedProvider where
  login : Provider.LoginState
  details : List Provider.ClusterDetail
  /-- Clusters that were deleted by a call. -/
  deleted : List String
  role : Option Provider.ConnectionRole
  team : Option String
  createError : Option Provider.Error
  detailError : Option Provider.Error
  byNameError : Option Provider.Error
  deleteError : Option Provider.Error
  roleError : Option Provider.Error
  teamError : Option Provider.Error

namespace ScriptedProvider

def start : ScriptedProvider :=
  ⟨.active, [], [], none, none, none, none, none, none, none, none⟩

/-- An answer, unless the login or a failure in store comes before it. -/
def guarded {α : Type} (p : ScriptedProvider) (fault : Option Provider.Error)
    (answer : Except Provider.Error α) : Except Provider.Error α :=
  match p.login.check with
  | .error e => .error e
  | .ok () =>
    match fault with
    | some e => .error e
    | none => answer

def create (p : ScriptedProvider) : Except Provider.Error Unit := p.guarded p.createError (.ok ())

def detail (p : ScriptedProvider) (id : String) : Except Provider.Error Provider.ClusterDetail :=
  p.guarded p.detailError <|
    match p.details.find? (·.id = id) with
    | some d => .ok d
    | none => .error .notFound

def byName (p : ScriptedProvider) (name : String) : Except Provider.Error Provider.ClusterDetail :=
  p.guarded p.byNameError (.ok ((p.details.find? (·.name = name)).getD .empty))

/-- A cluster can be deleted once. -/
def delete (p : ScriptedProvider) (id : String) : Except Provider.Error Unit × ScriptedProvider :=
  let r := p.guarded p.deleteError (if p.deleted.contains id then .error .notFound else .ok ())
  (r, if r.isOk then { p with deleted := id :: p.deleted } else p)

def connectionRole (p : ScriptedProvider) : Except Provider.Error Provider.ConnectionRole :=
  p.guarded p.roleError <|
    match p.role with
    | some r => .ok r
    | none => .error .notFound

def personalTeam (p : ScriptedProvider) : Except Provider.Error String :=
  p.guarded p.teamError <|
    match p.team with
    | some id => .ok id
    | none => .error .noPersonalTeam

end ScriptedProvider

/-- Everything that passes act on. -/
structure ClusterWorld extends Surroundings Cluster where
  provider : ScriptedProvider
  /-- Calls and accepted writes, the latest first. -/
  calls : List Call
  writes : List Write

namespace ClusterWorld

def start (measured : Bool) (clock : Timestamp) : ClusterWorld :=
  ⟨.start measured clock, .start, [], []⟩

def called (w : ClusterWorld) (c : Call) : ClusterWorld := { w with calls := c :: w.calls }

def wrote (w : ClusterWorld) (r : Except Store.Error Cluster) (write : Cluster → Write) :
    ClusterWorld :=
  match r with
  | .ok c => { w with writes := write c :: w.writes }
  | .error _ => w

def answer (q : Question) (w : ClusterWorld) : Answer q × ClusterWorld :=
  match q with
  | .load key => (w.store.load key, w)
  | .replaceMetadata c =>
    let (r, store) := w.store.replaceMetadata c
    (r, { w with store := store }.wrote r fun c => .metadata c.metadata.finalizerList)
  | .replaceStatus c =>
    let (r, store) := w.store.replaceStatus c
    (r, { w with store := store }.wrote r fun c => .status c.status)
  | .createCluster r => (w.provider.create, w.called (.create r))
  | .clusterDetail id => (w.provider.detail id, w.called (.detail id))
  | .clusterNamed name => (w.provider.byName name, w.called (.byName name))
  | .deleteCluster id =>
    let (r, provider) := w.provider.delete id
    (r, { w with provider := provider }.called (.delete id))
  | .connectionRole id => (w.provider.connectionRole, w.called (.role id))
  | .personalTeam => (w.provider.personalTeam, w.called .team)
  | .loginState => (w.provider.login, w)
  | .now => (w.clock, w)
  | .note n => ((), { w with toSurroundings := w.takeNote n })

/-- Runs a pass for an event on an object with this metadata. -/
def reconcile (w : ClusterWorld) (s : Reconcile.Settings) (event : Metadata) :
    Except Reconcile.Error Reconcile.Action × ClusterWorld :=
  (Reconcile.reconcile s event).run answer { w with calls := [], writes := [] }

end ClusterWorld

end ClusterOperator.Simulation
