import ClusterOperator.Text.Quoted
import ClusterOperator.Timestamp

/-!
# What the provider's API speaks of
-/

namespace ClusterOperator.Provider

/-- Asks the provider for a new cluster. -/
structure CreateRequest where
  name : String
  teamId : String
  plan : String
  /-- Volume size in gigabytes. -/
  storage : Int32
  provider : String
  region : String
  majorVersion : Int32
  isHA : Bool
  deriving DecidableEq, Repr, Inhabited

structure InstanceDetail where
  id : String
  name : String
  providerId : String
  regionId : String
  /-- `primary` or `read_replica`. -/
  kind : String
  url : String
  deriving DecidableEq, Repr, Inhabited

/-- A cluster as the provider describes it. Listings leave `state` and
`instances` empty, details leave `replicas` empty. -/
structure ClusterDetail where
  id : String
  name : String
  teamId : String
  cpu : Int32
  memory : Int32
  storage : Int32
  majorVersion : Int32
  isHA : Bool
  createdAt : Option Timestamp
  updatedAt : Option Timestamp
  oldestBackup : Option Timestamp
  providerId : String
  regionId : String
  state : String
  instances : List InstanceDetail
  replicas : List ClusterDetail
  deriving Inhabited

/-- The detail that stands for a cluster that was not found. -/
def ClusterDetail.empty : ClusterDetail :=
  ⟨"", "", "", 0, 0, 0, 0, false, none, none, none, "", "", "", [], []⟩

def ClusterDetail.isEmpty (d : ClusterDetail) : Bool := d.id.isEmpty

/-- The states of a cluster that the provider is known to report. -/
inductive ClusterState where
  | unknown
  | creating
  | ready
  deriving DecidableEq, Repr

def ClusterState.all : List ClusterState := [.unknown, .creating, .ready]

def ClusterState.text : ClusterState → String
  | .unknown => "unknown"
  | .creating => "creating"
  | .ready => "ready"

def ClusterDetail.isReady (d : ClusterDetail) : Bool := d.state = ClusterState.ready.text

structure ClusterList where
  clusters : List ClusterDetail
  totalCount : Int64
  deriving Inhabited

structure Team where
  id : String
  name : String
  isPersonal : Bool
  deriving DecidableEq, Repr, Inhabited

/-- Teams in the provider's order. -/
structure TeamList where
  teams : List Team
  deriving DecidableEq, Repr, Inhabited

/-- How users of a cluster connect to it. -/
structure ConnectionRole where
  name : String
  password : String
  uri : String
  deriving DecidableEq, Repr, Inhabited

/-- For logs; the credentials stay out. -/
def ConnectionRole.describe (r : ConnectionRole) : String :=
  "ConnectionRole \x7b name: " ++ Text.quoted r.name ++ ", .. \x7d"

/-- A token as issued, with its lifetime in seconds. -/
structure IssuedToken where
  accessToken : String
  id : String
  expiresIn : UInt64
  deriving DecidableEq, Repr, Inhabited

/-- The provider's explanation of a refusal. -/
structure Message where
  message : String
  requestId : String
  deriving DecidableEq, Repr, Inhabited

end ClusterOperator.Provider
