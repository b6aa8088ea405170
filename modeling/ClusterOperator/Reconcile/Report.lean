import ClusterOperator.Reconcile.Error
import ClusterOperator.Resource.Cluster
import ClusterOperator.Url

/-!
# What a pass reports in a status

Answers of the provider are folded into a status; when the status is written is
up to the pass.
-/

namespace ClusterOperator.Resource.Cluster

open Reconcile (Error)

/-- Records the time of a write. -/
def Status.stamp (s : Status) (now : Timestamp) : Status :=
  { s with lastUpdate := some now.toSecondsText }

def Status.enter (s : Status) (phase : Phase) (now : Timestamp) : Status :=
  { s with phase := phase.text }.stamp now

def Summary.ofDetail (d : Provider.ClusterDetail) : Summary where
  id := d.id
  name := d.name
  teamId := d.teamId
  cpu := d.cpu
  memory := d.memory
  storage := d.storage
  majorVersion := d.majorVersion
  haEnabled := d.isHA
  createdAt := d.createdAt.map (·.toSecondsText)
  updatedAt := d.updatedAt.map (·.toSecondsText)
  providerId := d.providerId
  regionId := d.regionId

/-- Takes over the provider's detail, unless it has no id. -/
def Status.takeDetail (s : Status) (d : Provider.ClusterDetail) : Except Error Status :=
  if d.isEmpty then .error (.invalidDetail "cluster detail has no id")
  else .ok { s with cluster := .ofDetail d }

/-- A connection URI without user and password, and the database it names. -/
def stripUserInfo (uri : String) : Except Error (String × String) :=
  match Url.parse uri with
  | .error fault => .error (.invalidDetail ("connection URI: " ++ fault.message))
  | .ok url =>
    if url.carriesUser then .ok (url.withoutUser.text, String.ofList url.relativePath)
    else .error (.invalidDetail "connection URI cannot carry user info")

/-- Takes over how to connect, but for the credentials. -/
def Status.connect (s : Status) (role : Provider.ConnectionRole) : Except Error Status :=
  match stripUserInfo role.uri with
  | .error e => .error e
  | .ok (uri, database) => .ok { s with connection := ⟨uri, role.name, database⟩ }

end ClusterOperator.Resource.Cluster
