import ClusterOperator.Resource.Cluster
import ClusterOperator.Resource.Schema
import ClusterOperator.Resource.Team

/-!
# Definitions of the operator's resources

What the API server is told of clusters and teams: their names, their schemas
and the columns that listings of them show.
-/

namespace ClusterOperator.Resource

/-- A column of a listing. -/
structure Column where
  name : String
  kind : String
  path : String

/-- A kind of resource as the API server is told of it. -/
structure Definition where
  kind : String
  singular : String
  plural : String
  shortName : String
  columns : List Column
  spec : Schema
  status : Schema

namespace Definition

def group : String := "crunchybridge.crunchydata.com"

def version : String := "v1alpha1"

/-- The schema of whole objects. -/
def schema (d : Definition) : Schema :=
  ((Schema.record [.required "spec" d.spec, .optional "status" d.status.orNull]).about
    ("Auto-generated derived type for " ++ d.kind ++ "Spec via `CustomResource`")).withKeyword
      "title" d.kind

def columnJson (c : Column) : Json :=
  .obj [("name", c.name), ("type", c.kind), ("jsonPath", c.path)]

def names (d : Definition) : Json :=
  .obj [("kind", d.kind), ("singular", d.singular), ("plural", d.plural),
    ("shortNames", .arr [.string d.shortName]), ("categories", .arr [])]

def toJson (d : Definition) : Json :=
  .obj [("apiVersion", "apiextensions.k8s.io/v1"), ("kind", "CustomResourceDefinition"),
    ("metadata", .obj [("name", .string (d.plural ++ "." ++ group))]),
    ("spec",
      .obj [("group", group), ("names", d.names), ("scope", "Namespaced"),
        ("versions",
          .arr [.obj [("name", version), ("served", true), ("storage", true),
            ("subresources", .obj [("status", .obj [])]),
            ("additionalPrinterColumns", .arr (d.columns.map columnJson)),
            ("schema", .obj [("openAPIV3Schema", d.schema.toJson)])]])])]

end Definition



/-- A text that is empty if it is left out. -/
def Schema.textOrEmpty : Schema := Schema.text.orElse ""

def Schema.int32OrZero : Schema := Schema.int32.orElse (.int 0)

def Column.age : Column := ⟨"Age", "date", ".metadata.creationTimestamp"⟩

namespace Cluster

def Spec.schema : Schema :=
  (Schema.record
    [.required "name" (Schema.text.about "Cluster name within Crunchy Bridge, unique per team"),
      .optional "teamId" (Schema.text.orNull.about
        "Team to create the cluster in Defaults to the operator's configured team, then its personal team"),
      .required "plan" (Schema.text.about
        "Provisioning plan (e.g. hobby-2, standard-8, or trial)"),
      .required "storage" (Schema.int32.about "Database volume size in gigabytes"),
      .required "provider" (Schema.text.about
        "Cloud infrastructure provider (e.g. aws, gcp, azure)"),
      .required "region" (Schema.text.about
        "Deployment region within the provider (e.g. us-east-1)"),
      .required "pgMajorVersion" (Schema.int32.about "PostgreSQL major version (e.g. 12, 13)"),
      .optional "enableHa" ((Schema.boolean.orElse false).about
        "Deploy the additional nodes needed for high availability")]).about
    "BridgeCluster is the Schema for the bridgeclusters API"

def Summary.schema : Schema :=
  Schema.record
    [.optional "id" (Schema.textOrEmpty.about "Crunchy Bridge cluster identifier"),
      .optional "name" .textOrEmpty,
      .optional "teamId" .textOrEmpty,
      .optional "cpu" (Schema.int32OrZero.about "Plan-allocated CPUs"),
      .optional "memory" (Schema.int32OrZero.about "Plan-allocated memory in gigabytes"),
      .optional "storage" (Schema.int32OrZero.about "Volume size in gigabytes"),
      .optional "majorVersion" .int32OrZero,
      .optional "haEnabled" (Schema.boolean.orElse false),
      .optional "createdAt" (Schema.text.orNull.about
        "Creation time as known to Crunchy Bridge (RFC3339)"),
      .optional "updatedAt" (Schema.text.orNull.about "Last provider-side change (RFC3339)"),
      .optional "providerId" .textOrEmpty,
      .optional "regionId" .textOrEmpty]

def Connection.schema : Schema :=
  Schema.record
    [.optional "connectString" (Schema.textOrEmpty.about
        "Connection URI without user information (e.g. postgres://p.fepkwudi6.example.com:5432/postgres)"),
      .optional "parentDbRole" (Schema.textOrEmpty.about
        "Role that bound application users inherit their permissions from"),
      .optional "databaseName" (Schema.textOrEmpty.about
        "Initial database created with the cluster")]

def Status.schema : Schema :=
  (Schema.record
    [.optional "phase" (Schema.textOrEmpty.about <|
        "Lifecycle phase: pending, creating, ready or deleting\n\n" ++
        "Kept as a string so a corrupted value surfaces as a reconcile error instead of " ++
        "failing to decode the whole object."),
      .optional "lastUpdate" (Schema.text.orNull.about
        "Last status write by the controller (RFC3339), unrelated to cluster.updatedAt"),
      .optional "cluster" ((Summary.schema.orElse Summary.empty.toJson).about
        "Cluster detail mirrored from Crunchy Bridge"),
      .optional "connection" ((Connection.schema.orElse Connection.empty.toJson).about
        "Non-user-specific connection information")]).about
    "Status of the BridgeCluster"

def definition : Definition where
  kind := "BridgeCluster"
  singular := "bridgecluster"
  plural := "bridgeclusters"
  shortName := "bc"
  columns :=
    [⟨"Cluster", "string", ".spec.name"⟩, ⟨"Plan", "string", ".spec.plan"⟩,
      ⟨"Provider", "string", ".spec.provider"⟩, ⟨"Region", "string", ".spec.region"⟩,
      ⟨"Phase", "string", ".status.phase"⟩, .age]
  spec := Spec.schema
  status := Status.schema

end Cluster

namespace Team

def SecretReference.schema : Schema :=
  Schema.record
    [.required "name" (Schema.text.about "Secret name"),
      .optional "namespace" (Schema.text.orNull.about
        "Secret namespace, defaults to the BridgeTeam's own namespace")]

def Spec.schema : Schema :=
  (Schema.record
    [.required "credentialsRef" (SecretReference.schema.about
        "Secret holding the API key pair to list teams with")]).about <|
    "BridgeTeam is the Schema for the bridgeteams API\n\n" ++
    "Lists the Crunchy Bridge teams visible to an API key pair, so cluster specs can name a " ++
    "team id without looking it up by hand."

def Entry.schema : Schema :=
  Schema.record
    [.required "id" (Schema.text.about "Team id to use as a cluster's teamId"),
      .optional "name" (Schema.text.about
        "Team name; the personal team is reported as \"Personal\"")]

def Condition.schema : Schema :=
  (Schema.record
    [.required "type" (Schema.text.about "Type of condition"),
      .required "status" (Schema.text.about "Status of the condition: True, False, or Unknown"),
      .required "reason" (Schema.text.about "Reason for the condition's last transition"),
      .required "message" (Schema.text.about "Human-readable message"),
      .required "lastTransitionTime" (Schema.text.about
        "Last time the condition transitioned"),
      .optional "observedGeneration" (Schema.int64.orNull.about
        "Generation observed when condition was set")]).about
    "Kubernetes-style condition"

def Status.schema : Schema :=
  (Schema.record
    [.optional "conditions" ((Schema.list Condition.schema).about
        "Conditions representing the latest discovery attempt"),
      .optional "teams" ((Schema.list Entry.schema).about
        "Teams the key pair belongs to, in provider order")]).about
    "Status of the BridgeTeam"

def definition : Definition where
  kind := "BridgeTeam"
  singular := "bridgeteam"
  plural := "bridgeteams"
  shortName := "bt"
  columns :=
    [⟨"Secret", "string", ".spec.credentialsRef.name"⟩,
      ⟨"Synced", "string", ".status.conditions[?(@.type==\"SpecSynced\")].status"⟩, .age]
  spec := Spec.schema
  status := Status.schema

end Team

end ClusterOperator.Resource
