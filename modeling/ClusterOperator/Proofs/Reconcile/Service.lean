import ClusterOperator.Proofs.Reconcile.Outcome

/-!
# One pass by itself

What a pass is told by a store that nobody else writes to meanwhile, and what comes of it at the
end: once a pass has done what it does, or has failed, it asks neither the store nor the provider.
-/

namespace ClusterOperator.Reconcile

open Resource (Cluster ObjectKey Metadata)
open Program
open Store (Record Dealing)

variable {s : Settings} {c : Cluster} {t u : List (Exchange Answer)} {x : Exchange Answer}
  {key : ObjectKey} {event : Metadata} {result : Except Error Action} {r r' : Record} {phase : Phase}

/-! ## The store -/

/-- Reads may be stale, writes may be refused for no reason, and answers may get lost. -/
inductive Served : Record → List (Exchange Answer) → Record → Prop
  | nil {r : Record} : Served r [] r
  | deals {r r' r'' : Record} {x : Exchange Answer} {d : Dealing} {t : List (Exchange Answer)} :
    dealing x = some d → r.Deals d r' → Served r' t r'' → Served r (x :: t) r''
  | apart {r r' : Record} {x : Exchange Answer} {t : List (Exchange Answer)} : dealing x = none →
    Served r t r' → Served r (x :: t) r'

theorem Served.append_inv (h : Served r (t ++ u) r') : ∃ r₁, Served r t r₁ ∧ Served r₁ u r' := by
  induction t generalizing r with
  | nil => exact ⟨r, .nil, h⟩
  | cons x t ih =>
    cases h with
    | deals hx hd ht =>
      obtain ⟨r₁, h₁, h₂⟩ := ih ht
      exact ⟨r₁, .deals hx hd h₁, h₂⟩
    | apart hx ht =>
      obtain ⟨r₁, h₁, h₂⟩ := ih ht
      exact ⟨r₁, .apart hx h₁, h₂⟩

theorem Served.append {r'' : Record} (h : Served r t r') (h' : Served r' u r'') :
    Served r (t ++ u) r'' := by
  induction h with
  | nil => exact h'
  | deals hx hd _ ih => exact .deals hx hd (ih h')
  | apart hx _ ih => exact .apart hx (ih h')

theorem Served.sound (h : Served r t r') (hr : r.Sound) : r'.Sound := by
  induction h with
  | nil => exact hr
  | deals _ hd _ ih => exact ih (hd.sound hr)
  | apart _ _ ih => exact ih hr

theorem Served.versions_subset (h : Served r t r') : r.versions ⊆ r'.versions := by
  induction h with
  | nil => exact List.Subset.refl _
  | deals _ hd _ ih => exact List.Subset.trans hd.suffix.subset ih
  | apart _ _ ih => exact ih

theorem Served.fitsIn (h : Served r t r') (hr : r.Sound) :
    ∀ y ∈ t, ∀ d, dealing y = some d → d.FitsIn r'.versions := by
  induction h with
  | nil => exact fun y hy => absurd hy List.not_mem_nil
  | deals hx hd ht ih =>
    refine List.forall_mem_cons.mpr ⟨fun d hd' => ?_, ih (hd.sound hr)⟩
    obtain rfl := Option.some.inj (hx.symm.trans hd')
    exact (hd.fitsIn hr).mono ht.versions_subset
  | apart hx _ ih =>
    refine List.forall_mem_cons.mpr ⟨fun d hd' => ?_, ih hr⟩
    cases hx.symm.trans hd'

theorem Served.fits (h : Served r (⟨.load key, .ok c⟩ :: t) r') (hr : r.Sound) :
    Fits r'.versions c t := by
  have hf := h.fitsIn hr
  exact ⟨hf _ List.mem_cons_self _ rfl, fun y hy => hf y (List.mem_cons_of_mem _ hy)⟩

theorem Served.unmoved (h : Served r t r') (ht : ∀ x ∈ t, dealing x = none) : r' = r := by
  induction h with
  | nil => rfl
  | deals hx _ _ _ => cases hx.symm.trans (ht _ List.mem_cons_self)
  | apart _ _ ih => exact ih fun x hx => ht x (List.mem_cons_of_mem _ hx)

theorem Served.of_load {a : Except Store.Error Cluster} (h : Served r (⟨.load key, a⟩ :: t) r') :
    Served r t r' := by
  cases h with
  | deals hx hd ht =>
    obtain rfl := Option.some.inj hx
    cases hd with
    | read _ => exact ht
    | unread => exact ht
  | apart hx _ => cases hx

theorem Served.load_mem (h : Served r (⟨.load key, .ok c⟩ :: t) r') : c ∈ r.versions := by
  cases h with
  | apart hx _ => cases hx
  | deals hx hd _ =>
    obtain rfl := Option.some.inj hx
    cases hd with
    | read hc => exact hc

/-- As above, but no answer gets lost: a write that is told to fail leaves nothing. -/
inductive ServedOpenly : Record → List (Exchange Answer) → Record → Prop
  | nil {r : Record} : ServedOpenly r [] r
  | deals {r r' r'' : Record} {x : Exchange Answer} {d : Dealing} {t : List (Exchange Answer)} :
    dealing x = some d → r.Deals d r' → (∀ part sent e, d = .replace part sent (.error e) → r' = r) →
    ServedOpenly r' t r'' → ServedOpenly r (x :: t) r''
  | apart {r r' : Record} {x : Exchange Answer} {t : List (Exchange Answer)} : dealing x = none →
    ServedOpenly r t r' → ServedOpenly r (x :: t) r'

theorem ServedOpenly.served (h : ServedOpenly r t r') : Served r t r' := by
  induction h with
  | nil => exact .nil
  | deals hx hd _ _ ih => exact .deals hx hd ih
  | apart hx _ ih => exact .apart hx ih

/-- The answer tells that a write was accepted. -/
def Accepted (x : Exchange Answer) : Prop :=
  ∃ part sent kept, dealing x = some (.replace part sent (.ok kept))

/-- Then only a write that is told to be accepted changes anything. -/
theorem ServedOpenly.unchanged (h : ServedOpenly r t r') (ht : ∀ x ∈ t, ¬ Accepted x) : r' = r := by
  induction h with
  | nil => rfl
  | @deals r r' r'' x d t hx hd he _ ih =>
    obtain ⟨hx', ht⟩ := List.forall_mem_cons.mp ht
    have hsame : r' = r := by
      cases hd with
      | read _ => rfl
      | unread => rfl
      | accepted _ => exact absurd ⟨_, _, _, hx⟩ hx'
      | lost _ => exact he _ _ _ rfl
      | refused => rfl
    rw [ih ht, hsame]
  | apart _ _ ih => exact ih (List.forall_mem_cons.mp ht).2

theorem not_accepted_of_none (h : dealing x = none) : ¬ Accepted x := by
  rintro ⟨_, _, _, hx⟩
  cases h.symm.trans hx

theorem dealing_aside (h : Aside x.question) : dealing x = none := by
  obtain ⟨q, a⟩ := x
  cases q <;> first | rfl | exact absurd h id

/-! ## The end of a pass -/

/-- Neither to the store nor to the provider. -/
def Idle : Question → Prop
  | .loginState | .note _ => True
  | _ => False

theorem dealing_idle (h : Idle x.question) : dealing x = none := by
  obtain ⟨q, a⟩ := x
  cases q <;> first | rfl | exact absurd h id

/-- What a pass returns for what its work came to. -/
def returned : Except Error Action → Except Error Action
  | .ok a => .ok a
  | .error e => if e.isConflict then .ok (.requeue conflictDelay) else .error e

theorem ends_settle {r : Except Error Action} (h : Ends (settle key r) t result) :
    result = returned r ∧ ∀ x ∈ t, Idle x.question := by
  cases r with
  | ok a =>
    obtain ⟨rfl, rfl⟩ := ends_settle_ok h
    exact ⟨rfl, by simp [Idle]⟩
  | error e =>
    rcases ends_settle_error h with ⟨he, rfl, rfl⟩ | ⟨he, rfl, rfl⟩
    · exact ⟨(if_pos he).symm, by simp⟩
    · exact ⟨(if_neg (by simp [he])).symm, by simp [Idle]⟩

/-- A pass that asked anything did its work first, and was idle then. -/
theorem ends_work (h : Ends (reconcile s event) (x :: t) result) :
    ∃ u v r, x :: t = u ++ v ∧ Ends (body s event.key).run u r ∧ result = returned r ∧
      ∀ y ∈ v, Idle y.question := by
  cases hn : event.ns with
  | none =>
    unfold reconcile at h
    rw [hn] at h
    cases (ends_done.mp h).1
  | some ns =>
    obtain ⟨r, u, login, v, ht, hb, hv⟩ := reconcile_parts hn h
    obtain ⟨hr, hi⟩ := ends_settle hv
    refine ⟨u, _, r, ht, hb, hr, ?_⟩
    rintro y hy
    rcases List.mem_cons.mp hy with rfl | hy
    · trivial
    rcases List.mem_cons.mp hy with rfl | hy
    · trivial
    · exact hi y hy

/-- A pass over an object in a known phase runs what is planned for it, and is idle then. -/
theorem ends_planned (hp : Phase.ofText? c.phaseText = some phase)
    (h : Ends (reconcile s event) (⟨.load event.key, .ok c⟩ :: t) result) :
    ∃ u v outcome, t = u ++ v ∧
      Ends (runEffects s c (Plan.make (observe c phase)).effects).run u outcome ∧
      result = returned (outcome.map fun _ => actionOf s (Plan.make (observe c phase)).requeue) ∧
      ∀ y ∈ v, Idle y.question := by
  obtain ⟨u, v, outcome, ht, hu, rfl, hi⟩ := ends_work h
  obtain ⟨a, u, rfl, hb⟩ := ends_ask_bind.mp hu
  cases ht
  simp only [hp] at hb
  rcases ends_try_bind.mp hb with ⟨error, h₁, rfl⟩ | ⟨c', u, w, h₁, h₂, rfl⟩
  · exact ⟨u, v, .error error, rfl, h₁, rfl, hi⟩
  · obtain ⟨rfl, rfl⟩ := ends_return.mp h₂
    rw [List.append_nil]
    exact ⟨u, v, .ok c', rfl, h₁, rfl, hi⟩

end ClusterOperator.Reconcile
