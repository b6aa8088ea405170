import ClusterOperator.Reconcile.TeamPass
import ClusterOperator.Proofs.Resource.Conditions

/-!
# What rounds make of a team's status

Each round reports on the status that the one before it left. The teams are those of the
last listing that succeeded, and there is one condition of the pass's kind, about the last
round, however the rounds alternate.
-/

namespace ClusterOperator.Reconcile.TeamPass

open Resource (Team)
open Resource.Team (Condition Entry setCondition setCondition_others setCondition_own syncedKind)
open Provider (TeamList)

/-- What a report is made of, apart from the status before it. -/
structure Round where
  generation : Option Int64
  listing : Except Provider.Error TeamList
  now : Timestamp

namespace Round

/-- The status that a round makes of the one before it. -/
def report (r : Round) (before : Option Team.Status) : Team.Status where
  conditions := setCondition (verdict r.listing) r.generation r.now.toSecondsText
    (before.getD .empty).conditions
  teams :=
    match r.listing with
    | .ok list => Team.entries list
    | .error _ => (before.getD .empty).teams

def outcome (r : Round) : String :=
  match r.listing with
  | .ok _ => "True"
  | .error _ => "False"

def reason (r : Round) : String :=
  match r.listing with
  | .ok _ => "SyncOK"
  | .error e => if e.isAuthentication then "AuthenticationError" else "BackendError"

def message (r : Round) : String :=
  match r.listing with
  | .ok _ => "Successfully discovered Crunchy Bridge teams"
  | .error e => e.message

end Round

def settled (first : Option Team.Status) : List Round → Option Team.Status
  | [] => first
  | r :: older => some (r.report (settled first older))

def standing (first : Option Condition) : List Round → Option String
  | [] => first.map (·.status)
  | r :: _ => some r.outcome

/-- The last round that changed what the condition says, or added it. -/
def turn? (first : Option Condition) : List Round → Option Round
  | [] => none
  | r :: older => if standing first older = some r.outcome then turn? first older else some r

def since (first : Option Condition) (rounds : List Round) : Option String :=
  match turn? first rounds with
  | some r => some r.now.toSecondsText
  | none => first.map (·.lastTransitionTime)

def own (status : Option Team.Status) : List Condition :=
  (status.getD .empty).conditions.filter (·.kind = syncedKind)

def others (status : Option Team.Status) : List Condition :=
  (status.getD .empty).conditions.filter (·.kind ≠ syncedKind)

variable {first : Option Team.Status} {rounds older : List Round} {r : Round} {c : Condition}

@[simp] theorem verdict_kind : (verdict r.listing).kind = syncedKind := by
  unfold verdict
  cases r.listing <;> rfl

@[simp] theorem verdict_status : (verdict r.listing).status = r.outcome := by
  unfold verdict Round.outcome
  cases r.listing <;> rfl

@[simp] theorem verdict_reason : (verdict r.listing).reason = r.reason := by
  unfold verdict Round.reason
  cases r.listing <;> rfl

@[simp] theorem verdict_message : (verdict r.listing).message = r.message := by
  unfold verdict Round.message
  cases r.listing <;> rfl

theorem outcome_true : r.outcome = "True" ↔ ∃ list, r.listing = .ok list := by
  unfold Round.outcome
  cases r.listing <;> simp

/-! ## Teams -/

theorem settled_teams : ((settled first rounds).getD .empty).teams =
    match rounds.findSome? (·.listing.toOption) with
    | some list => Team.entries list
    | none => (first.getD .empty).teams := by
  induction rounds with
  | nil => rfl
  | cons r older ih =>
    rw [List.findSome?_cons]
    unfold settled Round.report
    cases r.listing with
    | ok list => rfl
    | error e => exact ih

/-! ## Conditions -/

theorem settled_others : others (settled first rounds) = others first := by
  induction rounds with
  | nil => rfl
  | cons r older ih =>
    have h := setCondition_others (verdict r.listing) r.generation r.now.toSecondsText
      ((settled first older).getD .empty).conditions
    rw [verdict_kind] at h
    exact h.trans ih

theorem own_report {before : Option Team.Status} : own (some (r.report before)) =
    match own before with
    | [] => [(verdict r.listing).fresh r.generation r.now.toSecondsText]
    | c :: rest => c.judge (verdict r.listing) r.generation r.now.toSecondsText :: rest := by
  have h := setCondition_own (verdict r.listing) r.generation r.now.toSecondsText
    (before.getD .empty).conditions
  rw [verdict_kind] at h
  exact h

theorem own_settled_length (rounds : List Round) (h : (own first).length ≤ 1) :
    (own (settled first rounds)).length ≤ 1 := by
  induction rounds with
  | nil => exact h
  | cons r older ih =>
    unfold settled
    rw [own_report]
    split
    · simp
    · next hc =>
      rw [hc] at ih
      simpa using ih

theorem since_kept (h : standing (own first).head? older = some r.outcome) :
    since (own first).head? (r :: older) = since (own first).head? older := by
  unfold since
  rw [turn?, if_pos h]

theorem since_turned (h : standing (own first).head? older ≠ some r.outcome) :
    since (own first).head? (r :: older) = some r.now.toSecondsText := by
  unfold since
  rw [turn?, if_neg h]

/-- The first condition of the kind, from round to round. -/
theorem head_settled (first : Option Team.Status) (rounds : List Round) :
    (own (settled first rounds)).head?.map (·.status) =
      standing (own first).head? rounds ∧
    (own (settled first rounds)).head?.map (·.lastTransitionTime) =
      since (own first).head? rounds := by
  induction rounds with
  | nil => exact ⟨rfl, rfl⟩
  | cons r older ih =>
    obtain ⟨hs, ht⟩ := ih
    unfold settled
    rw [own_report]
    split
    · next hn =>
      rw [hn] at hs
      refine ⟨?_, ?_⟩
      · simp [Team.Verdict.fresh, standing]
      · rw [since_turned (by simp [← hs])]
        rfl
    · next c rest hc =>
      rw [hc] at hs ht
      refine ⟨?_, ?_⟩
      · simp [Condition.judge, standing]
      by_cases he : c.status = r.outcome
      · rw [since_kept (hs ▸ congrArg some he), ← ht]
        simp [Condition.judge, he]
      · rw [since_turned (by rw [← hs]; simpa using he)]
        simp [Condition.judge, he]

theorem own_settled_cons (r : Round) (older : List Round) (h : (own first).length ≤ 1) :
    ∃ c, own (settled first (r :: older)) = [c] ∧ c.status = r.outcome ∧ c.reason = r.reason ∧
      c.message = r.message ∧ c.observedGeneration = r.generation ∧
      some c.lastTransitionTime = since (own first).head? (r :: older) := by
  have hl := own_settled_length older h
  have ht := (head_settled first (r :: older)).2
  unfold settled at ht ⊢
  rw [own_report] at ht ⊢
  cases hc : own (settled first older) with
  | nil =>
    rw [hc] at ht
    exact ⟨_, rfl, by simp [Team.Verdict.fresh], by simp [Team.Verdict.fresh],
      by simp [Team.Verdict.fresh], rfl, ht⟩
  | cons c rest =>
    rw [hc] at hl ht
    obtain rfl : rest = [] := List.eq_nil_of_length_eq_zero (by simpa using hl)
    exact ⟨_, rfl, by simp [Condition.judge], by simp [Condition.judge],
      by simp [Condition.judge], rfl, ht⟩

end ClusterOperator.Reconcile.TeamPass
