import ClusterOperator.Provider.Client
import ClusterOperator.Reconcile.Pass

/-!
# Passes whose provider is a client

What a pass asks of the provider becomes a call of a client. What is left are
the questions to the store, the clock and the metrics, and those of the client.
-/

namespace ClusterOperator.Reconcile.Connected

open Provider (Client)

inductive Question where
  /-- One that the provider has no part in. -/
  | plain (q : Reconcile.Question)
  | client (q : Client.Question)

@[reducible] def Answer : Question → Type
  | .plain q => Reconcile.Answer q
  | .client q => Client.Answer q

def plain (q : Reconcile.Question) : Program Answer (Reconcile.Answer q) :=
  .query (Question.plain q)

/-- A call, with its questions among those of the pass. -/
def call {α : Type} (p : Client.Call α) : Program Answer (Except Provider.Error α) :=
  p.run.interpret fun q => .query (Question.client q)

/-- Each question of a pass, through the client if it is one for the provider. -/
def answer : (q : Reconcile.Question) → Program Answer (Reconcile.Answer q)
  | .createCluster r => call (Client.create r)
  | .clusterDetail id => call (Client.detail id)
  | .clusterNamed name => call (Client.byName name)
  | .deleteCluster id => call (Client.delete id)
  | .connectionRole id => call (Client.role id)
  | .personalTeam => call Client.personalTeam
  | .loginState => .query (Question.client .state)
  | .load key => plain (.load key)
  | .replaceMetadata c => plain (.replaceMetadata c)
  | .replaceStatus c => plain (.replaceStatus c)
  | .now => plain .now
  | .note n => plain (.note n)

/-- A whole pass. -/
def reconcile (s : Settings) (event : Resource.Metadata) : Program Answer (Except Error Action) :=
  (Reconcile.reconcile s event).interpret answer

end ClusterOperator.Reconcile.Connected
