import ClusterOperator.Kubernetes.Api
import ClusterOperator.Options
import ClusterOperator.Provider.Client

/-!
# The operator's clients

Which secret a client's credential comes from, and what the client is made from,
as the options say it.
-/

namespace ClusterOperator.Options

open Provider (ClientSettings)

/-- A secret's key pair, under the names that all secrets of the operator use. -/
def secretSource (o : Options) (key : Resource.ObjectKey) : Kubernetes.SecretSource :=
  ⟨key, o.keyField, o.secretField⟩

/-- The source of the operator's own credential. -/
def operatorSource (o : Options) : Kubernetes.SecretSource :=
  o.secretSource ⟨o.credentialsNamespace, o.credentialsName⟩

/-- A client for a credential source. -/
def clientSettings {S : Type} (o : Options) (source : S) : ClientSettings S :=
  ⟨some o.apiUrl, o.authUrl, some source, none⟩

end ClusterOperator.Options
