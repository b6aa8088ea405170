import ClusterOperator.Backoff
import ClusterOperator.Decimal.Layout
import ClusterOperator.Decimal.Quick
import ClusterOperator.Decimal.Shortest
import ClusterOperator.Digest.Sha1
import ClusterOperator.Digest.Uuid
import ClusterOperator.Double
import ClusterOperator.Health
import ClusterOperator.Http
import ClusterOperator.Json.Basic
import ClusterOperator.Json.Record
import ClusterOperator.Json.Text
import ClusterOperator.Kubernetes.Api
import ClusterOperator.Kubernetes.Failure
import ClusterOperator.Kubernetes.Secret
import ClusterOperator.Lifecycle
import ClusterOperator.Main
import ClusterOperator.Metrics
import ClusterOperator.Options
import ClusterOperator.Options.Clients
import ClusterOperator.Phase
import ClusterOperator.Plan
import ClusterOperator.Power
import ClusterOperator.Program
import ClusterOperator.Proofs.Digest.Uuid
import ClusterOperator.Proofs.Program.Scene
import ClusterOperator.Proofs.Program.Transcript
import ClusterOperator.Proofs.Provider.Attempts
import ClusterOperator.Proofs.Provider.Bearers
import ClusterOperator.Proofs.Provider.Calls
import ClusterOperator.Proofs.Provider.Checked
import ClusterOperator.Proofs.Provider.Expiry
import ClusterOperator.Proofs.Provider.Gate
import ClusterOperator.Proofs.Provider.Labels
import ClusterOperator.Proofs.Provider.Ledger
import ClusterOperator.Proofs.Provider.Life
import ClusterOperator.Proofs.Provider.Operation
import ClusterOperator.Proofs.Provider.Provenance
import ClusterOperator.Proofs.Provider.Pursuit
import ClusterOperator.Proofs.Provider.Sharing
import ClusterOperator.Proofs.Provider.SingleFlight
import ClusterOperator.Proofs.Provider.Tenants
import ClusterOperator.Proofs.Provider.Tenure
import ClusterOperator.Proofs.Provider.Tokens
import ClusterOperator.Proofs.Provider.Traffic
import ClusterOperator.Proofs.Reconcile.Acceptance
import ClusterOperator.Proofs.Reconcile.Attribution
import ClusterOperator.Proofs.Reconcile.Coherence
import ClusterOperator.Proofs.Reconcile.Connection
import ClusterOperator.Proofs.Reconcile.Course
import ClusterOperator.Proofs.Reconcile.Creation
import ClusterOperator.Proofs.Reconcile.Guard
import ClusterOperator.Proofs.Reconcile.Inquiry
import ClusterOperator.Proofs.Reconcile.Passage
import ClusterOperator.Proofs.Reconcile.Removal
import ClusterOperator.Proofs.Reconcile.Steering
import ClusterOperator.Proofs.Reconcile.TeamHistory
import ClusterOperator.Proofs.Reconcile.TeamPassage
import ClusterOperator.Proofs.Reconcile.TeamRounds
import ClusterOperator.Proofs.Resource.Conditions
import ClusterOperator.Proofs.Store.Record
import ClusterOperator.Provider.Cache
import ClusterOperator.Provider.Client
import ClusterOperator.Provider.Codec
import ClusterOperator.Provider.Error
import ClusterOperator.Provider.Labels
import ClusterOperator.Provider.Login
import ClusterOperator.Provider.Session
import ClusterOperator.Provider.Session.Stage
import ClusterOperator.Provider.Types
import ClusterOperator.Reconcile.Conditions
import ClusterOperator.Reconcile.Connected
import ClusterOperator.Reconcile.Error
import ClusterOperator.Reconcile.Failures
import ClusterOperator.Reconcile.Pass
import ClusterOperator.Reconcile.Report
import ClusterOperator.Reconcile.Request
import ClusterOperator.Reconcile.TeamPass
import ClusterOperator.Resource.Cluster
import ClusterOperator.Resource.Definition
import ClusterOperator.Resource.Metadata
import ClusterOperator.Resource.Schema
import ClusterOperator.Resource.Team
import ClusterOperator.Simulation.Clusters
import ClusterOperator.Simulation.Faults
import ClusterOperator.Simulation.Network
import ClusterOperator.Simulation.Surroundings
import ClusterOperator.Simulation.Teams
import ClusterOperator.Span
import ClusterOperator.Store.Error
import ClusterOperator.Store.Memory
import ClusterOperator.Text.Base64
import ClusterOperator.Text.Composed
import ClusterOperator.Text.Digit
import ClusterOperator.Text.Mark
import ClusterOperator.Text.Printable
import ClusterOperator.Text.Quoted
import ClusterOperator.Text.Space
import ClusterOperator.Text.Table
import ClusterOperator.Text.Utf8
import ClusterOperator.Timestamp
import ClusterOperator.Url
import ClusterOperator.Url.Address
import ClusterOperator.Url.Domain
import ClusterOperator.Url.Domain.Direction
import ClusterOperator.Url.Domain.Joiner
import ClusterOperator.Url.Domain.Mapping
import ClusterOperator.Url.Host
import ClusterOperator.Url.Percent
import ClusterOperator.Url.Punycode
import ClusterOperator.Url.Query
import ClusterOperator.Version
import ClusterOperator.Proofs.Reconcile.TeamRest
import ClusterOperator.Proofs.Json.Record
import ClusterOperator.Proofs.Timestamp
import ClusterOperator.Proofs.Provider.Codec
import ClusterOperator.Proofs.Resource.Codec
import ClusterOperator.Proofs.Json.Contents
import ClusterOperator.Proofs.Timestamp.Meaning
import ClusterOperator.Proofs.Provider.Contents
import ClusterOperator.Proofs.Resource.Contents
import ClusterOperator.Proofs.Formats
import ClusterOperator.Proofs.Provider.Keys
import ClusterOperator.Proofs.Reconcile.Account
import ClusterOperator.Proofs.Reconcile.Outcome
import ClusterOperator.Proofs.Metrics
import ClusterOperator.Proofs.Reconcile.Tally
import ClusterOperator.Proofs.Reconcile.Setbacks
import ClusterOperator.Proofs.Reconcile.Service
import ClusterOperator.Proofs.Reconcile.Breakdown
import ClusterOperator.Proofs.Reconcile.Departure
import ClusterOperator.Proofs.Program.Performance
import ClusterOperator.Proofs.Reconcile.Provision
import ClusterOperator.Proofs.Reconcile.Convergence
import ClusterOperator.Proofs.Provider.Listing
import ClusterOperator.Proofs.Reconcile.Observation
import ClusterOperator.Proofs.Provider.Period
import ClusterOperator.Proofs.Provider.Renewal
import ClusterOperator.Proofs.Text.Table
import ClusterOperator.Proofs.Url.Punycode
import ClusterOperator.Proofs.Text.Marks
import ClusterOperator.Proofs.Text.Composites
import ClusterOperator.Proofs.Text.Composed
import ClusterOperator.Proofs.Url.Mapping
import ClusterOperator.Proofs.Backoff
import ClusterOperator.Proofs.Resource.Verdicts
import ClusterOperator.Proofs.Provider.Repairs
import ClusterOperator.Proofs.Reconcile.Credentials
