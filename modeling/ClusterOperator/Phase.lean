/-!
# Phases of a cluster

A cluster resource runs through `unknown`, `pending`, `creating` and `ready`;
`deleting` is entered from any of them and never left.
-/

namespace ClusterOperator

inductive Phase where
  | unknown
  /-- The deletion guard is in place, the create request not yet accepted. -/
  | pending
  /-- The create request was accepted, the cluster is being provisioned. -/
  | creating
  | ready
  | deleting
  deriving DecidableEq, Repr

namespace Phase

def all : List Phase := [.unknown, .pending, .creating, .ready, .deleting]

def text : Phase → String
  | .unknown => "unknown"
  | .pending => "pending"
  | .creating => "creating"
  | .ready => "ready"
  | .deleting => "deleting"

/-- The phase of a status text; a status that was never written has none. -/
def ofText? (s : String) : Option Phase :=
  if s = "" then some .unknown else all.find? (·.text = s)

/-- The text of a phase as shown to people: no text is the unknown phase. -/
def shown (s : String) : String := if s = "" then unknown.text else s

def rank : Phase → Nat
  | .unknown => 0
  | .pending => 1
  | .creating => 2
  | .ready => 3
  | .deleting => 4

instance : Ord Phase := ⟨fun a b => compare a.rank b.rank⟩

theorem ofText?_text (p : Phase) : ofText? p.text = some p := by
  cases p <;> decide

end Phase

end ClusterOperator
