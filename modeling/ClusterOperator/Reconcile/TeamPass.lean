import ClusterOperator.Reconcile.Conditions
import ClusterOperator.Reconcile.Pass

/-!
# One pass over a team

A pass lists the teams that a secret gives access to and reports them together
with a condition. The status is written only if it changed, so that a pass does
not call for another one.
-/

namespace ClusterOperator.Reconcile.TeamPass

open Resource (Team ObjectKey Metadata)

inductive Question where
  | load (key : ObjectKey)
  | replaceStatus (t : Team)
  /-- The teams that a secret gives access to. -/
  | listTeams (ns secret : String)
  | now
  | note (n : Note)

@[reducible] def Answer : Question → Type
  | .load _ => Except Store.Error Team
  | .replaceStatus _ => Except Store.Error Team
  | .listTeams _ _ => Except Provider.Error Provider.TeamList
  | .now => Timestamp
  | .note _ => Unit

abbrev Pass := ExceptT Error (Program Answer)

def ask (q : Question) : Pass (Answer q) := ExceptT.lift (.query q)

/-- What a listing says about the secret. -/
def verdict : Except Provider.Error Provider.TeamList → Team.Verdict
  | .ok _ => .synced true "SyncOK" "Successfully discovered Crunchy Bridge teams"
  | .error e =>
    .synced false (if e.isAuthentication then "AuthenticationError" else "BackendError") e.message

/-- The status after a listing. One that failed leaves the teams as they were. -/
def report (t : Team) (listing : Except Provider.Error Provider.TeamList) (now : Timestamp) :
    Team.Status :=
  let status := t.status.getD .empty
  { conditions :=
      Team.setCondition (verdict listing) t.metadata.generation now.toSecondsText status.conditions
    teams :=
      match listing with
      | .ok list => Team.entries list
      | .error _ => status.teams }

/-- A blank secret lists nothing. -/
def list (t : Team) (ns : String) : Pass (Except Provider.Error Provider.TeamList) :=
  let secret := Text.trim t.spec.credentialsRef.name
  if secret.isEmpty then return .error .credentialMissing
  else ask (.listTeams (t.secretNamespace.getD ns) secret)

/-- Writes the status if it differs from the stored one. -/
def writeStatus (t : Team) (status : Team.Status) : Pass Unit :=
  if t.status = some status then return
  else do
    match ← ask (.replaceStatus { t with status := some status }) with
    | .ok _ => return
    | .error e => throw (.store e)

def body (key : ObjectKey) : Pass Action := do
  match ← ask (.load key) with
  | .error (.notFound _) => return .awaitChange
  | .error e => throw (.store e)
  | .ok t =>
    let listing ← list t key.ns
    let now ← ask .now
    writeStatus t (report t listing now)
    match listing with
    | .ok _ => return .awaitChange
    | .error e => throw (.provider e)

/-- Counts a pass, as a pass over a cluster is counted. -/
def settle (key : ObjectKey) (r : Except Error Action) : Program Answer (Except Error Action) :=
  match r with
  | .ok action => do
    Program.query (Question.note (.succeeded key))
    return .ok action
  | .error e =>
    if e.isConflict then return .ok (.requeue conflictDelay)
    else do
      Program.query (Question.note (.failed key e.kind))
      return .error e

def reconcile (event : Metadata) : Program Answer (Except Error Action) :=
  match event.ns with
  | none => return .error (.missingKey ".metadata.namespace")
  | some ns => do
    let key : ObjectKey := ⟨ns, event.anyName⟩
    let r ← (body key).run
    settle key r

end ClusterOperator.Reconcile.TeamPass
