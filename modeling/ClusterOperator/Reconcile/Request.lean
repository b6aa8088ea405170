import ClusterOperator.Resource.Cluster

/-!
# What is asked of the provider for a cluster
-/

namespace ClusterOperator.Resource.Cluster.Spec

open Provider (CreateRequest)

/-- The plan that stands for the free trial. -/
def trialPlan : String := "trial"

/-- A trial has a fixed shape and runs on one provider only; on that one it
keeps its region. -/
def asTrial (r : CreateRequest) : CreateRequest :=
  let shaped := { r with plan := "hobby-2", storage := 10, isHA := false }
  if r.provider = "aws" then shaped else { shaped with provider := "aws", region := "us-east-1" }

def createRequest (s : Spec) (teamId : String) : CreateRequest :=
  let plain : CreateRequest :=
    ⟨s.name, teamId, s.plan, s.storage, s.provider, s.region, s.pgMajorVersion, s.enableHA⟩
  if s.plan = trialPlan then asTrial plain else plain

/-- The team that the spec names. -/
def team? (s : Spec) : Option String := s.teamId.bind Text.trimmed?

end ClusterOperator.Resource.Cluster.Spec
