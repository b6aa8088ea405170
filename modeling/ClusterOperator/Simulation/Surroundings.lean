import ClusterOperator.Health
import ClusterOperator.Reconcile.Pass
import ClusterOperator.Simulation.Faults

/-!
# What passes of every kind act on

The store, the metrics and the count of failures. Who answers for the provider
differs between kinds of passes.
-/

namespace ClusterOperator.Simulation

open Resource (Metadata)
open Reconcile (Note)

structure Surroundings (α : Type) where
  store : FaultyStore α
  health : Health
  /-- Whether passes leave their notes in the metrics. -/
  measured : Bool
  failures : Reconcile.Failures
  clock : Timestamp

/-- Takes a note of a pass for the metrics. -/
def measure (n : Note) (clock : Timestamp) (m : Metrics) : Metrics :=
  match n with
  | .moved source target => m.moved source target
  | .login state => m.showLogin state
  | .succeeded key => m.succeeded key 0 clock.unixSeconds
  | .failed key kind => m.failed key kind

/-- A pass that succeeded ends a row of failures. -/
def forgive (n : Note) (f : Reconcile.Failures) : Reconcile.Failures :=
  match n with
  | .succeeded key => f.clear key.text
  | _ => f

namespace Surroundings

variable {α : Type}

def start (measured : Bool) (clock : Timestamp) : Surroundings α :=
  ⟨.empty, .start, measured, .none, clock⟩

/-- Changes what is stored, without the store's checks. -/
def change (w : Surroundings α) (f : Store.Memory α → Store.Memory α) : Surroundings α :=
  { w with store := { w.store with memory := f w.store.memory } }

def takeNote (w : Surroundings α) (n : Note) : Surroundings α :=
  { w with
    health :=
      if w.measured then { w.health with metrics := measure n w.clock w.health.metrics }
      else w.health
    failures := forgive n w.failures }

def errorPolicy (w : Surroundings α) (schedule : Backoff) (event : Metadata) (e : Reconcile.Error)
    (draw : Float) : Span × Surroundings α :=
  let (delay, failures) := Reconcile.errorPolicy schedule w.failures event e draw
  (delay, { w with failures := failures })

end Surroundings

end ClusterOperator.Simulation
