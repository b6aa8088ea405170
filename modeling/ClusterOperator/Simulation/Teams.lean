import ClusterOperator.Reconcile.TeamPass
import ClusterOperator.Simulation.Surroundings

/-!
# Passes over teams against a scripted directory
-/

namespace ClusterOperator.Simulation

open Resource (Team Metadata)
open Reconcile.TeamPass (Question Answer)

/-- A secret that teams were listed for. -/
structure Listing where
  ns : String
  secret : String
  deriving DecidableEq, Repr

/-- Everything that passes over teams act on. -/
structure TeamWorld extends Surroundings Team where
  teams : List Provider.Team
  listError : Option Provider.Error
  /-- Listings and accepted statuses, the latest first. -/
  listings : List Listing
  writes : List (Option Team.Status)

namespace TeamWorld

def start (measured : Bool) (clock : Timestamp) : TeamWorld :=
  ⟨.start measured clock, [], none, [], []⟩

def answer (q : Question) (w : TeamWorld) : Answer q × TeamWorld :=
  match q with
  | .load key => (w.store.load key, w)
  | .replaceStatus t =>
    let (r, store) := w.store.replaceStatus t
    let w := { w with store := store }
    (r,
      match r with
      | .ok t => { w with writes := t.status :: w.writes }
      | .error _ => w)
  | .listTeams ns secret =>
    (match w.listError with
      | some e => .error e
      | none => .ok ⟨w.teams⟩,
      { w with listings := ⟨ns, secret⟩ :: w.listings })
  | .now => (w.clock, w)
  | .note n => ((), { w with toSurroundings := w.takeNote n })

def reconcile (w : TeamWorld) (event : Metadata) :
    Except Reconcile.Error Reconcile.Action × TeamWorld :=
  (Reconcile.TeamPass.reconcile event).run answer { w with listings := [], writes := [] }

end TeamWorld

end ClusterOperator.Simulation
