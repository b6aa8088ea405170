import ClusterOperator.Metrics

/-!
# Probes and metrics over HTTP
-/

namespace ClusterOperator

structure Health where
  /-- Whether passes are being run. -/
  ready : Bool
  metrics : Metrics

namespace Health

def start : Health := ⟨false, .empty⟩

structure Response where
  status : Nat
  contentType : Option String
  body : String
  deriving DecidableEq, Repr

def plainText : String := "text/plain; charset=utf-8"

/-- Ends a path: a query or a fragment follows. -/
def endsPath (c : Char) : Bool := c = '?' || c = '#'

/-- What follows a scheme and a host. -/
def afterHost : List Char → List Char
  | ':' :: '/' :: '/' :: cs => cs.dropWhile fun c => c ≠ '/' && !endsPath c
  | _ :: cs => afterHost cs
  | [] => []

/-- The path of a target, which may be a whole URL. -/
def pathOf (target : String) : String :=
  let path (cs : List Char) := cs.takeWhile fun c => !endsPath c
  match target.toList with
  | '/' :: cs => String.ofList ('/' :: path cs)
  | cs =>
    match path (afterHost cs) with
    | [] => "/"
    | cs => String.ofList cs

/-- What stands at a path. -/
def page? (h : Health) (path : String) : Option Response :=
  if path = "/healthz" then some ⟨200, some plainText, "ok"⟩
  else if path = "/readyz" then
    some (if h.ready then ⟨200, some plainText, "ready"⟩ else ⟨503, some plainText, "not ready"⟩)
  else if path = "/metrics" then
    some ⟨200, some "text/plain; version=0.0.4; charset=utf-8", h.metrics.text⟩
  else none

/-- Pages can only be read. -/
def respond (h : Health) (method target : String) : Response :=
  match h.page? (pathOf target) with
  | none => ⟨404, none, ""⟩
  | some page =>
    if method = "GET" then page
    else if method = "HEAD" then { page with body := "" }
    else ⟨405, none, ""⟩

end Health

end ClusterOperator
