import ClusterOperator.Proofs.Reconcile.Guard
import ClusterOperator.Proofs.Reconcile.Service

/-!
# Passes that break off

An effect that fails ends its pass. What it was told last says why: the store refused a write,
or the provider a call after which nothing was written. So the object is left as the effects
before had it, and all that they can have changed is the status and the operator's finalizer.
-/

namespace ClusterOperator.Reconcile

open Resource (Cluster ObjectKey Metadata)
open Kubernetes (Part)
open Program
open Store (Record Dealing merge versionOf withVersion)

variable {s : Settings} {c c' sent : Cluster} {t u done part rest told : List (Exchange Answer)}
  {x : Exchange Answer} {key : ObjectKey} {event : Metadata} {result : Except Error Action}
  {r r₁ r' : Record} {e : Effect} {es before : List Effect} {error : Error} {phase : Phase}

/-! ## Effects that fail -/

inductive Breaks : List (Exchange Answer) → Error → Prop
  | store {t : List (Exchange Answer)} {x : Exchange Answer} {part : Part} {sent : Cluster}
      {e : Store.Error} : (∀ y ∈ t, Aside y.question) →
    dealing x = some (.replace part sent (.error e)) → Breaks (t ++ [x]) (.store e)
  | provider {t : List (Exchange Answer)} {e : Provider.Error} : (∀ y ∈ t, Aside y.question) →
    Breaks t (.provider e)

theorem breaks_replaceMetadata
    (h : Ends (fromStore (.query (Question.replaceMetadata sent))).run t (.error error)) :
    Breaks t error := by
  obtain ⟨d, h₁, rfl⟩ := ends_fromStore_error.mp h
  obtain rfl := ends_query.mp h₁
  rw [← List.nil_append [_]]
  exact .store (by simp) rfl

theorem breaks_writePhase (h : Ends (writePhase c phase).run t (.error error)) :
    Breaks t error := by
  obtain ⟨now, d, rfl, rfl⟩ := ends_writePhase_error h
  rw [← List.singleton_append]
  exact .store (by simp [Aside]) rfl

theorem breaks_quiet {p : Pass Unit} (hp : Only Aside p.run)
    (he : ∀ {t d}, Ends p.run t (.error d) → ∃ d', d = .provider d')
    (h : Ends (p >>= fun _ => (pure c : Pass Cluster)).run t (.error error)) : Breaks t error := by
  have h := ends_pass_return_error h
  obtain ⟨d, rfl⟩ := he h
  exact .provider fun y hy => hp.hears h.hears hy

theorem breaks_observe (h : Ends (observeCluster c).run t (.error error)) : Breaks t error := by
  rw [observeCluster_eq] at h
  rcases ends_try_bind.mp h with ⟨d, h₁, h₂⟩ | ⟨d, v, w, h₁, h₂, rfl⟩
  · cases h₂
    obtain ⟨d, rfl, -⟩ := ends_lookUp_error h₁
    exact .provider fun y hy => only_lookUp.hears h₁.hears hy
  have hv : ∀ y ∈ v, Aside y.question := fun y hy => only_lookUp.hears h₁.hears hy
  split at h₂
  · cases (ends_return.mp h₂).2
  · obtain ⟨role, now, f, rfl, rfl⟩ := ends_takeOver_error h₂
    -- neither the role nor the clock can end the pass, so it is the write that failed
    have : v ++ [⟨.connectionRole d.id, role⟩, ⟨.now, now⟩,
        ⟨.replaceStatus (observed c d role now), .error f⟩] =
        (v ++ [⟨.connectionRole d.id, role⟩, ⟨.now, now⟩]) ++
          [⟨.replaceStatus (observed c d role now), .error f⟩] := by simp
    rw [this]
    refine .store (List.forall_mem_append.mpr ⟨hv, ?_⟩) rfl
    simp [Aside]

theorem breaks_of_ends (h : Ends (runEffect s c e).run t (.error error)) : Breaks t error := by
  cases e with
  | markDeleting => exact absurd h not_ends_markDeleting_error
  | addFinalizer => exact breaks_replaceMetadata h
  | removeFinalizer => exact breaks_replaceMetadata h
  | setPhase phase => exact breaks_writePhase h
  | createCluster =>
    refine breaks_quiet only_createCluster (fun h => ?_) h
    obtain ⟨d, rfl, -⟩ := ends_createCluster_error h
    exact ⟨d, rfl⟩
  | observeCluster => exact breaks_observe h
  | deleteCluster id =>
    refine breaks_quiet only_deleteCluster (fun h => ?_) h
    obtain ⟨_, d, -, -, rfl⟩ := ends_deleteCluster_error h
    exact ⟨d, rfl⟩

/-! ## What they leave -/

/-- Nothing comes of what is told, but for a write that is accepted though it is told to fail. -/
def LeavesAlone (r : Record) (t : List (Exchange Answer)) (r' : Record) : Prop :=
  r' = r ∨ ∃ x ∈ t, ∃ part sent e kept, dealing x = some (.replace part sent (.error e)) ∧
    r.Accepts part sent kept ∧ r' = r.put part kept

theorem Served.asides (h : Served r t r') (ht : ∀ x ∈ t, Aside x.question) : r' = r :=
  h.unmoved fun x hx => dealing_aside (ht x hx)

theorem Served.idle (h : Served r t r') (ht : ∀ x ∈ t, Idle x.question) : r' = r :=
  h.unmoved fun x hx => dealing_idle (ht x hx)

theorem Breaks.leavesAlone (h : Breaks t error) (hs : Served r t r') : LeavesAlone r t r' := by
  cases h with
  | provider ht => exact .inl (hs.asides ht)
  | store ht hx =>
    obtain ⟨r₁, h₁, h₂⟩ := hs.append_inv
    obtain rfl := h₁.asides ht
    cases h₂ with
    | apart hx' _ => cases hx.symm.trans hx'
    | deals hx' hd h₃ =>
      obtain rfl := Option.some.inj (hx.symm.trans hx')
      obtain rfl := h₃.asides (by simp)
      cases hd with
      | refused => exact .inl rfl
      | lost ha => exact .inr ⟨_, by simp, _, _, _, _, hx, ha, rfl⟩

theorem Breaks.not_accepted (h : Breaks t error) : ∀ x ∈ t, ¬ Accepted x := by
  have aside : ∀ {u : List (Exchange Answer)}, (∀ y ∈ u, Aside y.question) → ∀ y ∈ u, ¬ Accepted y :=
    fun hu y hy => not_accepted_of_none (dealing_aside (hu y hy))
  cases h with
  | provider ht => exact aside ht
  | store ht hx =>
    refine List.forall_mem_append.mpr ⟨aside ht, List.forall_mem_singleton.mpr ?_⟩
    rintro ⟨_, _, _, hx'⟩
    cases hx.symm.trans hx'

/-- What a pass returns for the failure of an effect. -/
def answerFor : Error → Except Error Action
  | .store (.conflict _) => .ok (.requeue conflictDelay)
  | e => .error e

theorem returned_store (e : Store.Error) : returned (.error (.store e)) = answerFor (.store e) := by
  cases e <;> rfl

theorem Breaks.returned (h : Breaks t error) : returned (.error error) = answerFor error := by
  cases h with
  | store _ _ => exact returned_store _
  | provider _ => rfl

/-! ## Where a pass stops -/

/-- The plan for `c` is carried out as far as an effect, with which it breaks off. -/
def FailsAt (s : Settings) (c : Cluster) (before : List Effect)
    (done part : List (Exchange Answer)) (error : Error) : Prop :=
  ∃ phase c' e after, Phase.ofText? c.phaseText = some phase ∧
    (Plan.make (observe c phase)).effects = before ++ e :: after ∧
    Ends (runEffects s c before).run done (.ok c') ∧ Ends (runEffect s c' e).run part (.error error)

theorem FailsAt.breaks (h : FailsAt s c before done part error) : Breaks part error := by
  obtain ⟨_, _, _, _, -, -, -, h⟩ := h
  exact breaks_of_ends h

theorem FailsAt.done_nil (h : FailsAt s c [] done part error) : done = [] := by
  obtain ⟨_, _, _, _, -, -, h, -⟩ := h
  exact (ends_return.mp h).1

theorem FailsAt.ends_body (h : FailsAt s c before done part error) :
    Ends (body s key).run (⟨.load key, .ok c⟩ :: (done ++ part)) (.error error) := by
  obtain ⟨phase, c', e, after, hp, he, hd, hf⟩ := h
  have hes : Ends (runEffects s c' (e :: after)).run part (.error error) :=
    ends_try_bind.mpr (.inl ⟨error, hf, rfl⟩)
  refine ends_ask_bind.mpr ⟨.ok c, done ++ part, rfl, ?_⟩
  simp only [hp]
  refine ends_try_bind.mpr (.inl ⟨error, ?_, rfl⟩)
  rw [he]
  exact ends_runEffects_append hd hes

theorem ends_runEffects_error (h : Ends (runEffects s c es).run t (.error error)) :
    ∃ before e after c' done part, es = before ++ e :: after ∧ t = done ++ part ∧
      Ends (runEffects s c before).run done (.ok c') ∧
      Ends (runEffect s c' e).run part (.error error) := by
  induction es generalizing c t with
  | nil => cases (ends_return.mp h).2
  | cons e es ih =>
    rcases ends_try_bind.mp h with ⟨d, h₁, h₂⟩ | ⟨c₁, u, v, h₁, h₂, rfl⟩
    · cases h₂
      exact ⟨[], e, es, c, [], t, rfl, rfl, ends_return.mpr ⟨rfl, rfl⟩, h₁⟩
    · obtain ⟨before, e', after, c', done, part, rfl, rfl, hd, hp⟩ := ih h₂
      exact ⟨e :: before, e', after, c', u ++ done, part, rfl, (List.append_assoc ..).symm,
        h₁.try_bind hd, hp⟩

/-- A pass over an object in a known phase carries out its plan, if it does not break off. -/
theorem finishes_or_fails (hp : Phase.ofText? c.phaseText = some phase)
    (h : Ends (reconcile s event) (⟨.load event.key, .ok c⟩ :: t) result) :
    (∃ before done part rest error, FailsAt s c before done part error ∧
      t = done ++ (part ++ rest)) ∨
    ∃ done rest c', t = done ++ rest ∧
      Ends (runEffects s c (Plan.make (observe c phase)).effects).run done (.ok c') ∧
      result = .ok (actionOf s (Plan.make (observe c phase)).requeue) := by
  obtain ⟨u, v, outcome, rfl, hu, rfl, -⟩ := ends_planned hp h
  cases outcome with
  | error error =>
    obtain ⟨before, e, after, c', done, part, he, rfl, hd, hf⟩ := ends_runEffects_error hu
    exact .inl ⟨before, done, part, v, error, ⟨phase, c', e, after, hp, he, hd, hf⟩,
      List.append_assoc ..⟩
  | ok c' => exact .inr ⟨u, v, c', rfl, hu, rfl⟩

/-- A pass is idle as soon as its work is done. -/
theorem idle_after_body {outcome : Except Error Action}
    (hb : Ends (body s event.key).run (x :: t) outcome)
    (h : Ends (reconcile s event) (x :: t ++ rest) result) :
    (∀ y ∈ rest, Idle y.question) ∧ result = returned outcome := by
  obtain ⟨u, v, outcome', ht, hu, hr, hi⟩ := ends_work h
  obtain ⟨-, rfl, rfl⟩ := hb.unique hu ht
  exact ⟨hi, hr⟩

theorem FailsAt.stops (hf : FailsAt s c before done part error)
    (h : Ends (reconcile s event) (⟨.load event.key, .ok c⟩ :: (done ++ (part ++ rest))) result) :
    (∀ x ∈ rest, Idle x.question) ∧ result = answerFor error := by
  rw [← List.append_assoc, ← List.cons_append] at h
  rw [← hf.breaks.returned]
  exact idle_after_body hf.ends_body h

theorem FailsAt.leavesAlone (hf : FailsAt s c before done part error)
    (hs : Served r (part ++ rest) r') (hi : ∀ x ∈ rest, Idle x.question) :
    LeavesAlone r part r' := by
  obtain ⟨r₁, h₁, h₂⟩ := hs.append_inv
  obtain rfl := h₂.idle hi
  exact hf.breaks.leavesAlone h₁

/-- If no answer is lost, an effect that fails leaves what is stored as it was, and a pass whose
first effect fails leaves all. -/
theorem FailsAt.unchanged (hf : FailsAt s c before done part error)
    (h : Ends (reconcile s event) (⟨.load event.key, .ok c⟩ :: (done ++ (part ++ rest))) result) :
    (ServedOpenly r₁ (part ++ rest) r' → r' = r₁) ∧
    (before = [] →
      ServedOpenly r (⟨.load event.key, .ok c⟩ :: (done ++ (part ++ rest))) r' → r' = r) := by
  obtain ⟨hi, -⟩ := hf.stops h
  have hpart : ∀ x ∈ part ++ rest, ¬ Accepted x := List.forall_mem_append.mpr
    ⟨hf.breaks.not_accepted, fun x hx => not_accepted_of_none (dealing_idle (hi x hx))⟩
  refine ⟨fun hs => hs.unchanged hpart, ?_⟩
  rintro rfl hs
  obtain rfl := hf.done_nil
  refine hs.unchanged (List.forall_mem_cons.mpr ⟨?_, hpart⟩)
  rintro ⟨_, _, _, hx⟩
  cases hx

/-- What a pass returns for an object that it cannot load. -/
def answerForUnread : Store.Error → Except Error Action
  | .notFound _ => .ok .awaitChange
  | e => answerFor (.store e)

theorem unread_stops {e : Store.Error}
    (h : Ends (reconcile s event) (⟨.load event.key, .error e⟩ :: rest) result) :
    (∀ x ∈ rest, Idle x.question) ∧ result = answerForUnread e := by
  have hb : ∃ outcome, Ends (body s event.key).run [⟨.load event.key, .error e⟩] outcome ∧
      returned outcome = answerForUnread e := by
    cases e with
    | notFound m => exact ⟨_, .later .now, rfl⟩
    | conflict m => exact ⟨_, .later .now, rfl⟩
    | kubernetes f => exact ⟨_, .later .now, rfl⟩
  obtain ⟨outcome, hb, hr⟩ := hb
  rw [← hr]
  exact idle_after_body hb h

theorem unrecognized_stops (hp : Phase.ofText? c.phaseText = none)
    (h : Ends (reconcile s event) (⟨.load event.key, .ok c⟩ :: rest) result) :
    (∀ x ∈ rest, Idle x.question) ∧ result = .error (.unrecognizedPhase c.phaseText) := by
  have hb : Ends (body s event.key).run [⟨.load event.key, .ok c⟩]
      (.error (.unrecognizedPhase c.phaseText)) := by
    refine ends_ask_bind.mpr ⟨.ok c, [], rfl, ?_⟩
    simp only [hp]
    exact .now
  exact idle_after_body hb h

/-! ## What a pass can change -/

/-- What an accepted write makes of what is stored. -/
inductive Touches (stored : Cluster) : Part → Cluster → Prop
  | status {status : Option Cluster.Status} {v : String} :
    Touches stored .status (withVersion { stored with status := status } v)
  | guard {v : String} : Touches stored .main (withVersion (guarded stored) v)
  | release {v : String} : Touches stored .main (withVersion (released stored) v)

inductive Rewritten : Record → Record → Prop
  | refl {r : Record} : Rewritten r r
  | write {r r' : Record} {stored kept : Cluster} {part : Part} : Rewritten r r' →
    r'.current = some stored → Touches stored part kept → Rewritten r (r'.put part kept)

theorem touches_of_inquires {stored : Cluster} {part : Part} (hr : r.Sound)
    (hf : Fits r.versions c t) (hi : Inquires s c t (writing part sent))
    (hs : r.current = some stored) (hv : versionOf sent = versionOf stored) (v : String) :
    Touches stored part (withVersion (merge part stored sent) v) := by
  -- the write names the version that is stored, so it sends that version, but for one entry
  have same : ∀ {b : Cluster}, b ∈ r.versions → versionOf sent = versionOf b → stored = b :=
    fun hb hv' => hr.eq_of_version (hr.current_mem hs) hb (hv ▸ hv')
  cases part with
  | status => exact .status
  | main =>
    rcases inquires_replaceMetadata hi with ⟨-, -, rfl⟩ | ⟨c', t, u, rfl, -, hm, -, rfl⟩
    · obtain rfl := same hf.1 rfl
      exact .guard
    · obtain rfl := same (hf.marked hr hm).1 rfl
      exact .release

theorem Served.step_rewritten (hr : r.Sound) (ha : Asks (reconcile s event) t x.question)
    (hs : Served r t r₁) (hx : Served r₁ [x] r') (h : Rewritten r r₁) : Rewritten r r' := by
  have accepted : ∀ {part sent kept a}, dealing x = some (.replace part sent a) →
      r₁.Accepts part sent kept → Rewritten r (r₁.put part kept) := by
    rintro part sent kept a hx ⟨stored, v, hc, hv, -, rfl⟩
    have hp : PassOver event.key (reconcile s event) := ⟨s, event, rfl, rfl⟩
    obtain ⟨s, key, c, t, rfl, hi⟩ := hp.inquires ha hx
    exact h.write hc (touches_of_inquires (hs.sound hr) (hs.fits hr) hi hc hv v)
  cases hx with
  | apart _ h₁ =>
    cases h₁
    exact h
  | deals hx hd h₁ =>
    cases h₁
    cases hd with
    | accepted ha => exact accepted hx ha
    | lost ha => exact accepted hx ha
    | read _ => exact h
    | unread => exact h
    | refused => exact h

theorem Served.rewritten (hr : r.Sound) (h : Hears (reconcile s event) t) (hs : Served r t r') :
    Rewritten r r' := by
  induction t using List.reverseRecOn generalizing r' with
  | nil =>
    cases hs
    exact .refl
  | append_singleton t x ih =>
    obtain ⟨r₁, h₁, h₂⟩ := hs.append_inv
    exact Served.step_rewritten hr h.asks h₁ h₂ (ih h.of_append h₁)

/-! ## Altogether -/

/-- Whatever fails in a pass, it asks nothing more, and what is stored is what came before. -/
theorem failing_pass_stops (hr : r.Sound) (h : Ends (reconcile s event) told result)
    (hs : Served r told r') :
    (∀ {c before done part rest error}, FailsAt s c before done part error →
      told = ⟨.load event.key, .ok c⟩ :: (done ++ (part ++ rest)) →
        (∀ x ∈ rest, Idle x.question) ∧ result = answerFor error ∧
        (∀ r₁, Served r (⟨.load event.key, .ok c⟩ :: done) r₁ → Served r₁ (part ++ rest) r' →
          LeavesAlone r₁ part r') ∧
        (before = [] → LeavesAlone r part r')) ∧
    (∀ {e rest}, told = ⟨.load event.key, .error e⟩ :: rest →
      (∀ x ∈ rest, Idle x.question) ∧ result = answerForUnread e ∧ r' = r) ∧
    (∀ {c rest}, told = ⟨.load event.key, .ok c⟩ :: rest → Phase.ofText? c.phaseText = none →
      (∀ x ∈ rest, Idle x.question) ∧ result = .error (.unrecognizedPhase c.phaseText) ∧ r' = r) ∧
    Rewritten r r' := by
  refine ⟨?_, ?_, ?_, hs.rewritten hr h.hears⟩
  · rintro c before done part rest error hf rfl
    obtain ⟨hi, ha⟩ := hf.stops h
    refine ⟨hi, ha, fun r₁ _ h₂ => hf.leavesAlone h₂ hi, ?_⟩
    rintro rfl
    obtain rfl := hf.done_nil
    exact hf.leavesAlone hs.of_load hi
  · rintro e rest rfl
    obtain ⟨hi, ha⟩ := unread_stops h
    exact ⟨hi, ha, hs.of_load.idle hi⟩
  · rintro c rest rfl hp
    obtain ⟨hi, ha⟩ := unrecognized_stops hp h
    exact ⟨hi, ha, hs.of_load.idle hi⟩

namespace Sample

def raced : List (Exchange Answer) :=
  [⟨.now, now⟩, ⟨.replaceStatus (entered kept .pending now), .error (.conflict "")⟩]

/-- The guard is stored, but the phase loses a race. -/
theorem raced_failsAt : FailsAt .start cluster [.addFinalizer]
    [⟨.replaceMetadata fresh, .ok kept⟩] raced (.store (.conflict "")) :=
  ⟨.unknown, kept, .setPhase .pending, [], rfl, by decide, .later .now, .later (.later .now)⟩

def unsettled : List (Exchange Answer) :=
  [⟨.loginState, .active⟩, ⟨.note (.login .active), ()⟩]

def toldRaced : List (Exchange Answer) :=
  ⟨.load Sample.key, .ok cluster⟩ :: ([⟨.replaceMetadata fresh, .ok kept⟩] ++ (raced ++ unsettled))

theorem ends_raced : Ends pass toldRaced (.ok (.requeue conflictDelay)) :=
  .later (.later (.later (.later (.later (.later .now)))))

theorem served_guard : Served (.start cluster)
    [⟨.load Sample.key, .ok cluster⟩, ⟨.replaceMetadata fresh, .ok kept⟩]
    ⟨some kept, [kept, cluster]⟩ :=
  .deals rfl (.read List.mem_cons_self)
    (.deals rfl (.accepted ⟨cluster, "2", rfl, rfl, by decide, rfl⟩) .nil)

theorem served_raced : Served ⟨some kept, [kept, cluster]⟩ (raced ++ unsettled)
    ⟨some kept, [kept, cluster]⟩ :=
  .apart rfl (.deals rfl .refused (.apart rfl (.apart rfl .nil)))

end Sample

theorem failing_pass_stops_raced : FailsAt .start Sample.cluster [.addFinalizer]
      [⟨.replaceMetadata Sample.fresh, .ok Sample.kept⟩] Sample.raced (.store (.conflict "")) ∧
    Ends Sample.pass Sample.toldRaced (.ok (.requeue conflictDelay)) ∧
    ∃ r', Served (.start Sample.cluster) Sample.toldRaced r' ∧
      LeavesAlone ⟨some Sample.kept, [Sample.kept, Sample.cluster]⟩ Sample.raced r' ∧
      Rewritten (.start Sample.cluster) r' := by
  have hs := Sample.served_guard.append Sample.served_raced
  obtain ⟨hf, -, -, hw⟩ := failing_pass_stops (Record.sound_start _) Sample.ends_raced hs
  obtain ⟨-, -, hl, -⟩ := hf Sample.raced_failsAt rfl
  exact ⟨Sample.raced_failsAt, Sample.ends_raced, _, hs,
    hl _ Sample.served_guard Sample.served_raced, hw⟩

end ClusterOperator.Reconcile
