import ClusterOperator.Decimal.Quick
import ClusterOperator.Provider.Login
import ClusterOperator.Resource.Metadata

/-!
# Metrics

Counters, gauges and a histogram of passes, and their text for a scraper. Each
family keeps one value per label set, in the order of first use.
-/

namespace ClusterOperator

namespace Metrics

/-- Values by label set. -/
structure Family (κ ν : Type) where
  samples : List (κ × ν)

namespace Family

variable {κ ν : Type} [DecidableEq κ]

def empty : Family κ ν := ⟨[]⟩

def get? (f : Family κ ν) (labels : κ) : Option ν := f.samples.lookup labels

def updateIn (labels : κ) (fresh : ν) (f : ν → ν) : List (κ × ν) → List (κ × ν)
  | [] => [(labels, f fresh)]
  | (k, v) :: rest =>
    if k = labels then (k, f v) :: rest else (k, v) :: updateIn labels fresh f rest

/-- Changes one value, which starts out as `fresh`. -/
def update (m : Family κ ν) (labels : κ) (fresh : ν) (f : ν → ν) : Family κ ν :=
  ⟨updateIn labels fresh f m.samples⟩

theorem get?_update_self (m : Family κ ν) (k : κ) (fresh : ν) (f : ν → ν) :
    (m.update k fresh f).get? k = some (f ((m.get? k).getD fresh)) := by
  obtain ⟨samples⟩ := m
  induction samples with
  | nil => simp [update, updateIn, get?]
  | cons s rest ih =>
    obtain ⟨k', v⟩ := s
    simp only [update, updateIn, get?] at ih ⊢
    by_cases h : k' = k
    · subst h
      simp
    · have h' : (k == k') = false := by simpa using fun e => h e.symm
      simp only [h, if_false, List.lookup_cons, h', ih]

theorem get?_update_of_ne (m : Family κ ν) {k k' : κ} (h : k' ≠ k) (fresh : ν) (f : ν → ν) :
    (m.update k fresh f).get? k' = m.get? k' := by
  obtain ⟨samples⟩ := m
  induction samples with
  | nil =>
    have h' : (k' == k) = false := by simpa using h
    simp [update, updateIn, get?, List.lookup_cons, h']
  | cons s rest ih =>
    obtain ⟨l, v⟩ := s
    simp only [update, updateIn, get?] at ih ⊢
    by_cases hl : l = k
    · subst hl
      have h' : (k' == l) = false := by simpa using h
      simp [List.lookup_cons, h']
    · simp only [hl, if_false, List.lookup_cons, ih]

end Family

/-- How long passes took, in seconds. -/
structure Histogram where
  /-- How many took at most each bound, but longer than the bound before it. -/
  buckets : List Nat
  sum : Float
  count : Nat

namespace Histogram

/-- Each bound doubles the one before it. -/
def bounds : List Float := (List.range 15).map fun i => 0.001 * Float.ofNat (2 ^ i)

/-- The last bucket takes every finite length. -/
def largest : Float := Double.toFloat ⟨false, Double.codeLimit - 1⟩

def empty : Histogram := ⟨List.replicate (bounds.length + 1) 0, 0, 0⟩

/-- A length without an end is counted, but in no bucket. -/
def observe (h : Histogram) (seconds : Float) : Histogram :=
  let place := (bounds ++ [largest]).findIdx fun bound => seconds ≤ bound
  ⟨h.buckets.modify place (· + 1), h.sum + seconds, h.count + 1⟩

end Histogram

end Metrics

structure Metrics where
  reconciliations : Metrics.Family Resource.ObjectKey Nat
  /-- By object and kind of error. -/
  errors : Metrics.Family (Resource.ObjectKey × String) Nat
  durations : Metrics.Family Resource.ObjectKey Metrics.Histogram
  /-- By the texts of the phases left and entered. -/
  transitions : Metrics.Family (String × String) Nat
  login : Metrics.Family String Int
  lastReconcile : Int

namespace Metrics

def empty : Metrics := ⟨.empty, .empty, .empty, .empty, .empty, 0⟩

/-- Counts a pass that succeeded at a time in Unix seconds. -/
def succeeded (m : Metrics) (key : Resource.ObjectKey) (seconds : Float) (now : Int) : Metrics :=
  { m with
    reconciliations := m.reconciliations.update key 0 (· + 1)
    durations := m.durations.update key .empty (·.observe seconds)
    lastReconcile := now }

def failed (m : Metrics) (key : Resource.ObjectKey) (kind : String) : Metrics :=
  { m with errors := m.errors.update (key, kind) 0 (· + 1) }

def moved (m : Metrics) (source target : String) : Metrics :=
  { m with transitions := m.transitions.update (source, target) 0 (· + 1) }

/-- One for the current state and zero for every other. -/
def showLogin (m : Metrics) (current : Provider.LoginState) : Metrics :=
  { m with
    login := Provider.LoginState.all.foldl
      (fun f s => f.update s.text 0 fun _ => if s = current then 1 else 0) m.login }

/-! ## Text -/

/-- Samples have their point in its place between a millionth and `10 ^ 21`. -/
def sampleLayout : Decimal.Layout := ⟨-5, 21, false⟩

def numberText (x : Float) : String :=
  match Double.ofFloat? x with
  | some d =>
    (if d.negative then "-" else "") ++
      if d.code = 0 then "0.0" else sampleLayout.write (Decimal.Quick.digits d)
  | none => if x.isNaN then "NaN" else if x < 0 then "-inf" else "inf"

/-- Label values stand as they are. -/
def labelText (labels : List (String × String)) : String :=
  ",".intercalate (labels.map fun (name, value) => name ++ "=\"" ++ value ++ "\"")

def sample (name : String) (labels : List (String × String)) (value : String) : String :=
  (if labels.isEmpty then name else name ++ "\x7b" ++ labelText labels ++ "\x7d") ++ " " ++ value

def header (name help kind : String) : List String :=
  ["# HELP " ++ name ++ " " ++ help ++ ".", "# TYPE " ++ name ++ " " ++ kind]

def objectLabels (k : Resource.ObjectKey) : List (String × String) :=
  [("namespace", k.ns), ("name", k.name)]

def histogramLines (name : String) (labels : List (String × String)) (h : Histogram) : List String :=
  let bounds := Histogram.bounds.map numberText ++ ["+Inf"]
  let counts := (bounds.zip h.buckets).foldl
    (fun (lines, below) (bound, n) =>
      (sample (name ++ "_bucket") (("le", bound) :: labels) (toString (below + n)) :: lines, below + n))
    (([] : List String), 0)
  [sample (name ++ "_sum") labels (numberText h.sum),
    sample (name ++ "_count") labels (toString h.count)] ++ counts.1.reverse

def lines (m : Metrics) : List String :=
  let reconciliations := "bridge_operator_reconciliations"
  let errors := "bridge_operator_reconciliation_errors"
  let durations := "bridge_operator_reconcile_duration_seconds"
  let transitions := "bridge_operator_phase_transitions"
  let login := "bridge_operator_login_state"
  let last := "bridge_operator_last_reconcile_timestamp_seconds"
  header reconciliations "Total number of reconciliations" "counter" ++
    m.reconciliations.samples.map (fun (k, n) =>
      sample (reconciliations ++ "_total") (objectLabels k) (toString n)) ++
    header errors "Total number of reconciliation errors" "counter" ++
    m.errors.samples.map (fun ((k, kind), n) =>
      sample (errors ++ "_total") (objectLabels k ++ [("kind", kind)]) (toString n)) ++
    header durations "Duration of reconciliation in seconds" "histogram" ++
    m.durations.samples.flatMap (fun (k, h) => histogramLines durations (objectLabels k) h) ++
    header transitions "Total number of BridgeCluster phase transitions" "counter" ++
    m.transitions.samples.map (fun ((source, target), n) =>
      sample (transitions ++ "_total") [("from", source), ("to", target)] (toString n)) ++
    header login "Current Crunchy Bridge login state" "gauge" ++
    m.login.samples.map (fun (s, n) => sample login [("state", s)] (toString n)) ++
    header last "Unix time of the last successful reconciliation" "gauge" ++
    [sample last [] (toString m.lastReconcile), "# EOF"]

def text (m : Metrics) : String := String.join (m.lines.map (· ++ "\n"))

end Metrics

end ClusterOperator
