import ClusterOperator.Proofs.Reconcile.Breakdown

/-!
# Passes over an object that is to go

Such a pass marks the object, which may fail, deletes the cluster whose id is recorded, which
must not fail, and lets go of the object. No other pass deletes a cluster or removes a finalizer.
-/

namespace ClusterOperator.Reconcile

open Resource (Cluster ObjectKey Metadata)
open Kubernetes (Part)
open Program
open Store (Record Dealing merge versionOf withVersion)

variable {s : Settings} {c c' sent stored kept : Cluster} {t u v told : List (Exchange Answer)}
  {x : Exchange Answer} {q : Question} {key : ObjectKey} {event : Metadata}
  {result : Except Error Action} {r r₁ r' : Record} {phase : Phase}

/-! ## Deletions and merges -/

def deletion : Exchange Answer → Option String
  | ⟨.deleteCluster id, _⟩ => some id
  | _ => none

/-- The ids of the clusters that are deleted, in order. -/
def deletions (t : List (Exchange Answer)) : List String := t.filterMap deletion

@[simp] theorem deletions_append (t u : List (Exchange Answer)) :
    deletions (t ++ u) = deletions t ++ deletions u := List.filterMap_append

def Merging (x : Exchange Answer) : Prop := ∃ sent, x.question = .replaceMetadata sent

theorem deletions_idle (h : ∀ x ∈ t, Idle x.question) : deletions t = [] := by
  refine List.filterMap_eq_nil_iff.mpr fun x hx => ?_
  have hi := h x hx
  obtain ⟨q, a⟩ := x
  cases q <;> first | rfl | exact absurd hi id

theorem not_idle_of_merging (h : Merging x) : ¬ Idle x.question := by
  obtain ⟨sent, hq⟩ := h
  rw [hq]
  exact id

theorem mem_append_idle (hi : ∀ y ∈ u, Idle y.question) (hx : ¬ Idle x.question) :
    x ∈ t ++ u ↔ x ∈ t := by
  rw [List.mem_append, or_iff_left fun h => hx (hi x h)]

theorem not_merging_idle (h : ∀ x ∈ t, Idle x.question) : ∀ x ∈ t, ¬ Merging x := by
  exact fun x hx hm => not_idle_of_merging hm (h x hx)

theorem Marked.deletions (h : Marked c c' t) : deletions t = [] := by
  cases h <;> rfl

theorem Marked.not_merging (h : Marked c c' t) : ∀ x ∈ t, ¬ Merging x := by
  cases h <;> simp [Merging]

theorem Cleared.deletions {id? : Option String} (h : Cleared id? t) :
    deletions t = id?.toList := by
  cases h <;> rfl

theorem Cleared.not_merging {id? : Option String} (h : Cleared id? t) : ∀ x ∈ t, ¬ Merging x := by
  cases h <;> simp [Merging]

/-! ## What a deletion is told -/

/-- All that is told of the effects that are planned for a deletion. -/
inductive Departs (c : Cluster) : List (Exchange Answer) → Prop
  | held {c' : Cluster} {t : List (Exchange Answer)} {id : String}
      {a : Except Provider.Error Unit} : Marked c c' t → c.clusterId = some id →
    tookDelete a = false → Departs c (t ++ [⟨.deleteCluster id, a⟩])
  | freed {c' : Cluster} {t u : List (Exchange Answer)} {a : Except Store.Error Cluster} :
    Marked c c' t → Cleared c.clusterId u →
    Departs c (t ++ (u ++ [⟨.replaceMetadata (released c'), a⟩]))

theorem ends_removeFinalizer {outcome : Except Error Cluster}
    (h : Ends (runEffects s c [.removeFinalizer]).run t outcome) :
    ∃ a, t = [⟨.replaceMetadata (released c), a⟩] := by
  have h := ends_runEffects_last h
  cases outcome with
  | error e =>
    obtain ⟨d, h₁, -⟩ := ends_fromStore_error.mp h
    exact ⟨_, ends_query.mp h₁⟩
  | ok kept => exact ⟨_, ends_query.mp (ends_fromStore.mp h)⟩

theorem departs_of_ends {outcome : Except Error Cluster}
    (h : Ends (runEffects s c (.markDeleting ::
      (c.clusterId.toList.map .deleteCluster ++ [.removeFinalizer]))).run t outcome) :
    Departs c t := by
  rcases ends_try_bind.mp h with ⟨e, h₁, -⟩ | ⟨c', t, u, hm, h₁, rfl⟩
  · exact absurd h₁ not_ends_markDeleting_error
  have hm := marked_of_ends hm
  cases hc : c.clusterId with
  | none =>
    rw [hc] at h₁
    obtain ⟨a, rfl⟩ := ends_removeFinalizer h₁
    exact .freed (u := []) hm (hc ▸ .none)
  | some id =>
    rw [hc] at h₁
    rcases ends_try_bind.mp h₁ with ⟨e, h₂, -⟩ | ⟨c₁, v, w, h₂, h₃, rfl⟩
    · -- the provider still has the cluster, so the object is held
      obtain ⟨a, d, rfl, ha, -⟩ := ends_deleteCluster_error (ends_pass_return_error h₂)
      exact .held hm hc ha
    · obtain ⟨_, h₄, rfl⟩ := ends_pass_return h₂
      obtain ⟨a, rfl, ha⟩ := ends_deleteCluster h₄
      obtain ⟨a, rfl⟩ := ends_removeFinalizer h₃
      exact .freed hm (hc ▸ .some ha)

theorem Departs.deletions (h : Departs c t) : deletions t = c.clusterId.toList := by
  cases h with
  | held hm hc _ =>
    rw [deletions_append, hm.deletions, hc]
    rfl
  | freed hm hc =>
    rw [deletions_append, deletions_append, hm.deletions, hc.deletions]
    exact List.append_nil _

/-- The object is let go if there is nothing to delete, or it is gone. -/
theorem Departs.attempted (h : Departs c t) : (∃ x ∈ t, Merging x) ↔
    c.clusterId = none ∨ ∃ id a, ⟨.deleteCluster id, a⟩ ∈ t ∧ tookDelete a := by
  cases h with
  | @held c' t id a hm hc ha =>
    constructor
    · rintro ⟨x, hx, hmerge⟩
      rcases List.mem_append.mp hx with hx | hx
      · exact absurd hmerge (hm.not_merging x hx)
      · obtain rfl := List.mem_singleton.mp hx
        obtain ⟨_, hq⟩ := hmerge
        cases hq
    · rintro (hn | ⟨id', a', hx, ha'⟩)
      · cases hc.symm.trans hn
      · rcases List.mem_append.mp hx with hx | hx
        · cases hm <;> simp at hx
        · cases List.mem_singleton.mp hx
          cases ha.symm.trans ha'
  | @freed c' t u a hm hc =>
    refine iff_of_true ⟨⟨.replaceMetadata (released c'), a⟩, by simp, released c', rfl⟩ ?_
    generalize c.clusterId = id? at hc
    cases hc with
    | none => exact .inl rfl
    | @some id a ha => exact .inr ⟨id, a, by simp, ha⟩

/-! ## What a write of the metadata comes after -/

/-- A write of the metadata of an object that is to go is the last that a pass asks for. -/
theorem not_merging_of_inquires (hd : c.metadata.isDeleting) (h : Inquires s c told q) :
    ∀ x ∈ told, ¬ Merging x := by
  have living := ne_false_of_eq_true hd
  cases h with
  | mark _ _ _ he => cases he <;> simp [Merging]
  | clear _ hm _ => exact hm.not_merging
  | release _ hm hc => exact List.forall_mem_append.mpr ⟨hm.not_merging, hc.not_merging⟩
  | guard h _ => exact absurd h living
  | guardedSetup h _ _ => exact absurd h living
  | setup h _ _ _ => exact absurd h living
  | team h _ _ => exact absurd h living
  | create h _ _ => exact absurd h living
  | created h _ _ _ _ => exact absurd h living
  | byId h _ _ => exact absurd h living
  | byName h _ _ => exact absurd h living
  | observed h _ _ _ _ => exact absurd h living

theorem inquires_of_ends
    (h : Ends (reconcile s event) (⟨.load key, .ok c⟩ :: (u ++ x :: v)) result)
    (hx : ¬ Idle x.question) : Inquires s c u x.question := by
  have ha : Asks (reconcile s event) (⟨.load key, .ok c⟩ :: u) x.question :=
    Hears.asks (t := v) h.hears
  generalize x.question = q at ha hx
  rcases inquires_of_asks ha with ⟨_, h₁, -⟩ | (rfl | ⟨n, rfl⟩) | ⟨_, _, _, ht, hi⟩
  · cases h₁
  · exact absurd trivial hx
  · exact absurd trivial hx
  · cases ht
    exact hi

theorem idle_after_merge (hd : c.metadata.isDeleting) (hx : Merging x)
    (h : Ends (reconcile s event) (⟨.load key, .ok c⟩ :: (u ++ x :: v)) result) :
    ∀ y ∈ v, Idle y.question := by
  intro y hy
  by_contra hi
  obtain ⟨v₁, v₂, rfl⟩ := List.append_of_mem hy
  have h : Ends (reconcile s event)
      (⟨.load key, .ok c⟩ :: ((u ++ x :: v₁) ++ y :: v₂)) result := by simpa using h
  exact not_merging_of_inquires hd (inquires_of_ends h hi) x (by simp) hx

theorem deleting_of_inquires {id : String} (h : Inquires s c told (.deleteCluster id)) :
    c.metadata.isDeleting := by
  cases h with
  | clear hd _ _ => exact hd
  | mark hd _ _ _ => exact hd
  | guardedSetup _ _ he => cases he
  | setup _ _ _ he => cases he
  | created _ _ _ _ he => cases he
  | observed _ _ _ _ ht => cases ht

theorem deletions_of_staying (hd : c.metadata.isDeleting = false)
    (h : Ends (reconcile s event) (⟨.load key, .ok c⟩ :: t) result) : deletions t = [] := by
  refine List.filterMap_eq_nil_iff.mpr fun x hx => ?_
  obtain ⟨u, v, rfl⟩ := List.append_of_mem hx
  obtain ⟨q, a⟩ := x
  cases q with
  | deleteCluster id =>
    have deleting := deleting_of_inquires (inquires_of_ends h nofun)
    exact absurd hd (ne_false_of_eq_true deleting)
  | _ => rfl

/-- An object that is to go and that the operator does not hold is left to others. -/
theorem idle_of_unheld (hd : c.metadata.isDeleting)
    (hf : c.metadata.hasFinalizer finalizer = false)
    (h : Ends (reconcile s event) (⟨.load event.key, .ok c⟩ :: t) result) :
    ∀ x ∈ t, Idle x.question := by
  have living := ne_false_of_eq_true hd
  cases hp : Phase.ofText? c.phaseText with
  | none => exact (unrecognized_stops hp h).1
  | some phase =>
    obtain ⟨u, v, outcome, rfl, hu, -, hi⟩ := ends_planned hp h
    have he := planned c phase
    generalize (Plan.make (observe c phase)).effects = es at he hu
    cases he with
    | nothing =>
      obtain ⟨rfl, -⟩ := ends_return.mp hu
      exact hi
    | deletion _ hf' => cases hf.symm.trans hf'
    | setup h _ => exact absurd h living
    | guardedSetup h _ => exact absurd h living
    | creation h => exact absurd h living
    | observation h => exact absurd h living

theorem departs_of_pass (hd : c.metadata.isDeleting) (hf : c.metadata.hasFinalizer finalizer)
    (hp : Phase.ofText? c.phaseText = some phase)
    (h : Ends (reconcile s event) (⟨.load event.key, .ok c⟩ :: t) result) :
    ∃ u v, t = u ++ v ∧ Departs c u ∧ ∀ x ∈ v, Idle x.question := by
  obtain ⟨u, v, outcome, rfl, hu, -, hi⟩ := ends_planned hp h
  have he : (Plan.make (observe c phase)).effects =
      .markDeleting :: (c.clusterId.toList.map .deleteCluster ++ [.removeFinalizer]) :=
    effects_of_deletion hd hf
  rw [he] at hu
  exact ⟨u, v, rfl, departs_of_ends hu, hi⟩

/-! ## What becomes of the finalizers -/

/-- As a pass is told `t`, a write of the metadata is accepted, and `kept` takes the place of
`stored`. -/
def Merges (r : Record) (t : List (Exchange Answer)) (r' : Record) (stored kept : Cluster) : Prop :=
  ∃ u sent a v r₁, t = u ++ ⟨.replaceMetadata sent, a⟩ :: v ∧ Served r u r₁ ∧
    r₁.current = some stored ∧ r₁.Accepts .main sent kept ∧ Served (r₁.put .main kept) v r'

theorem Merges.later (hx : Served r [x] r₁) (h : Merges r₁ t r' stored kept) :
    Merges r (x :: t) r' stored kept := by
  obtain ⟨u, sent, a, v, r₂, rfl, hu, h⟩ := h
  exact ⟨x :: u, sent, a, v, r₂, rfl, hx.append hu, h⟩

/-- The finalizers of what is stored, as long as something is. -/
def finalizersOf (r : Record) : Option (List String) := r.current.map (·.metadata.finalizerList)

theorem finalizersOf_put_status (hc : r.current = some stored) (v : String) :
    finalizersOf (r.put .status (withVersion (merge .status stored sent) v)) = finalizersOf r := by
  rw [finalizersOf, finalizersOf, hc]
  rfl

theorem current_put_main (hd : kept.metadata.isDeleting) : (r.put .main kept).current =
    if kept.metadata.finalizerList = [] then none else some kept := by
  unfold Record.put Record.releases
  simp only [hd, decide_true, Bool.true_and, List.isEmpty_iff]

theorem exchange_of_dealing {a : Except Store.Error Cluster}
    (h : dealing x = some (.replace .main sent a)) : x = ⟨.replaceMetadata sent, a⟩ := by
  obtain ⟨q, b⟩ := x
  cases q <;> cases h
  rfl

/-- Finalizers change only where a write of the metadata is accepted. -/
theorem Served.finalizers (h : Served r t r') (hn : ∀ stored kept, ¬ Merges r t r' stored kept) :
    finalizersOf r' = finalizersOf r := by
  induction h with
  | nil => rfl
  | apart hx ht ih => exact ih fun _ _ hm => hn _ _ (hm.later (.apart hx .nil))
  | @deals r r₁ r' x d t hx hd ht ih =>
    have rest := ih fun _ _ hm => hn _ _ (hm.later (.deals hx hd .nil))
    have accepted : ∀ {part sent kept a}, dealing x = some (.replace part sent a) →
        r.Accepts part sent kept → Served (r.put part kept) t r' →
        finalizersOf (r.put part kept) = finalizersOf r := by
      rintro part sent kept a hx ⟨stored, v, hc, hv, hf, rfl⟩ ht
      cases part with
      | status => exact finalizersOf_put_status hc v
      | main =>
        obtain rfl := exchange_of_dealing hx
        exact absurd ⟨[], sent, a, t, r, rfl, .nil, hc, ⟨stored, v, hc, hv, hf, rfl⟩, ht⟩
          (hn stored _)
    cases hd with
    | read _ => exact rest
    | unread => exact rest
    | refused => exact rest
    | accepted ha => exact rest.trans (accepted hx ha ht)
    | lost ha => exact rest.trans (accepted hx ha ht)

theorem Served.finalizers_of_none (h : Served r t r') (ht : ∀ x ∈ t, ¬ Merging x) :
    finalizersOf r' = finalizersOf r := by
  refine h.finalizers ?_
  rintro stored kept ⟨u, sent, a, v, r₁, rfl, -⟩
  exact ht ⟨.replaceMetadata sent, a⟩ (by simp) ⟨sent, rfl⟩

theorem Fits.marked_finalizerList (hr : r.Sound) (hf : Fits r.versions c (t ++ u))
    (hm : Marked c c' t) : c'.metadata.finalizerList = c.metadata.finalizerList := by
  cases hm with
  | already => rfl
  | failed => rfl
  | done =>
    obtain ⟨-, v, rfl⟩ := hf.kept hr
      (List.mem_append_left _ (List.mem_cons_of_mem _ List.mem_cons_self)) rfl rfl
    rfl

/-! ## One merge -/

section
variable (h : Ends (reconcile s event) (⟨.load event.key, .ok c⟩ :: t) result)
include h

theorem guard_of_merge (hd : c.metadata.isDeleting = false) {a : Except Store.Error Cluster}
    (ht : t = u ++ ⟨.replaceMetadata sent, a⟩ :: v) : u = [] ∧ sent = guarded c := by
  subst ht
  rcases inquires_replaceMetadata (inquires_of_ends h nofun) with
    ⟨hu, -, hg⟩ | ⟨c', w, z, -, hl, -⟩
  · exact ⟨hu, hg⟩
  · exact absurd hd (ne_false_of_eq_true hl)

variable (hr : r.Sound) (hs : Served r (⟨.load event.key, .ok c⟩ :: t) r')
include hr hs

/-- What a pass over an object that is to go has been told when it lets go of it. -/
theorem release_of_merge (hd : c.metadata.isDeleting) {a : Except Store.Error Cluster}
    (ht : t = u ++ ⟨.replaceMetadata sent, a⟩ :: v) : ∃ c' w z, u = w ++ z ∧ Marked c c' w ∧
      Cleared c.clusterId z ∧ sent = released c' ∧
      c'.metadata.finalizerList = c.metadata.finalizerList := by
  subst ht
  rcases inquires_replaceMetadata (inquires_of_ends h nofun) with
    ⟨-, hl, -⟩ | ⟨c', w, z, rfl, -, hm, hc, rfl⟩
  · exact absurd hl (ne_false_of_eq_true hd)
  · have hf := hs.fits hr
    rw [List.append_assoc] at hf
    exact ⟨c', w, z, rfl, hm, hc, rfl, hf.marked_finalizerList (hs.sound hr) hm⟩

theorem released_of_merges (hd : c.metadata.isDeleting) (hm : Merges r t r' stored kept) :
    finalizersOf r = some stored.metadata.finalizerList ∧
      kept.metadata.finalizerList = stored.metadata.finalizerList.filter (· ≠ finalizer) ∧
      r'.current = if kept.metadata.finalizerList = [] then none else some kept := by
  obtain ⟨u, sent, a, v, r₁, rfl, hu, hc, ⟨b, n, hb, hv, hfresh, rfl⟩, hrest⟩ := hm
  obtain rfl := Option.some.inj (hc.symm.trans hb)
  obtain ⟨c', w, z, rfl, hm, hz, rfl, -⟩ := release_of_merge h hr hs hd rfl
  have hsu : Served r (⟨.load event.key, .ok c⟩ :: (w ++ z)) r₁ := .deals rfl (.read hs.load_mem) hu
  have hr₁ := hu.sound hr
  obtain ⟨hmem, -, hdel⟩ := (hsu.fits hr).marked hr₁ hm
  obtain rfl := hr₁.eq_of_version (hr₁.current_mem hc) hmem hv.symm
  have hi := idle_after_merge hd ⟨released stored, rfl⟩ h
  refine ⟨?_, rfl, ?_⟩
  · have hn : ∀ x ∈ w ++ z, ¬ Merging x :=
      List.forall_mem_append.mpr ⟨hm.not_merging, hz.not_merging⟩
    rw [← hu.finalizers_of_none hn, finalizersOf, hc]
    rfl
  · obtain rfl := hrest.idle hi
    exact current_put_main (hdel.trans hd)

theorem guarded_of_merges (hd : c.metadata.isDeleting = false) (hm : Merges r t r' stored kept) :
    kept.metadata.finalizerList = stored.metadata.finalizerList ++ [finalizer] := by
  obtain ⟨u, sent, a, v, r₁, ht, hu, hc, ⟨b, n, hb, hv, -, rfl⟩, -⟩ := hm
  obtain rfl := Option.some.inj (hc.symm.trans hb)
  obtain ⟨rfl, rfl⟩ := guard_of_merge h hd ht
  have hr₁ := hu.sound hr
  have hmem := hu.versions_subset hs.load_mem
  obtain rfl := hr₁.eq_of_version (hr₁.current_mem hc) hmem hv.symm
  rfl

end

/-! ## Altogether -/

/-- What a pass does to an object that it found to be on its way out. -/
structure Departure (c : Cluster) (r : Record) (t : List (Exchange Answer)) (r' : Record) :
    Prop where
  deletions : deletions t = c.clusterId.toList
  release {u v : List (Exchange Answer)} {sent : Cluster} {a : Except Store.Error Cluster} :
    t = u ++ ⟨.replaceMetadata sent, a⟩ :: v → Reconcile.deletions u = c.clusterId.toList ∧
      sent.metadata.finalizerList = c.metadata.finalizerList.filter (· ≠ finalizer)
  attempted : (∃ x ∈ t, Merging x) ↔
    c.clusterId = none ∨ ∃ id a, ⟨.deleteCluster id, a⟩ ∈ t ∧ tookDelete a
  accepted {stored kept : Cluster} : Merges r t r' stored kept →
    finalizersOf r = some stored.metadata.finalizerList ∧
      kept.metadata.finalizerList = stored.metadata.finalizerList.filter (· ≠ finalizer) ∧
      r'.current = if kept.metadata.finalizerList = [] then none else some kept

theorem departure_of_pass (hr : r.Sound)
    (h : Ends (reconcile s event) (⟨.load event.key, .ok c⟩ :: t) result)
    (hs : Served r (⟨.load event.key, .ok c⟩ :: t) r') (hd : c.metadata.isDeleting)
    (hf : c.metadata.hasFinalizer finalizer) (hp : Phase.ofText? c.phaseText = some phase) :
    Departure c r t r' := by
  obtain ⟨w, z, ht, hw, hi⟩ := departs_of_pass hd hf hp h
  refine ⟨?_, ?_, ?_, fun hm => released_of_merges h hr hs hd hm⟩
  · rw [ht, deletions_append, hw.deletions, deletions_idle hi, List.append_nil]
  · intro u v sent a ht
    obtain ⟨c', w, z, rfl, hm, hc, rfl, hl⟩ := release_of_merge h hr hs hd ht
    refine ⟨by rw [deletions_append, hm.deletions, hc.deletions, List.nil_append], ?_⟩
    rw [← hl]
    rfl
  · rw [ht]
    have merges : (∃ x ∈ w ++ z, Merging x) ↔ ∃ x ∈ w, Merging x :=
      exists_congr fun x => and_congr_left fun hm => mem_append_idle hi (not_idle_of_merging hm)
    have deletes : (∃ id a, ⟨.deleteCluster id, a⟩ ∈ w ++ z ∧ tookDelete a) ↔
        ∃ id a, ⟨.deleteCluster id, a⟩ ∈ w ∧ tookDelete a :=
      exists_congr fun _ => exists_congr fun _ => and_congr_left fun _ => mem_append_idle hi nofun
    rw [merges, deletes]
    exact hw.attempted

/-- What a pass does to the finalizers of an object, and whether it deletes its cluster. -/
theorem deletion_pass (hr : r.Sound)
    (h : Ends (reconcile s event) (⟨.load event.key, .ok c⟩ :: t) result)
    (hs : Served r (⟨.load event.key, .ok c⟩ :: t) r') :
    (c.metadata.isDeleting → c.metadata.hasFinalizer finalizer →
      (Phase.ofText? c.phaseText).isSome → Departure c r t r') ∧
    (c.metadata.isDeleting = false ∨ c.metadata.hasFinalizer finalizer = false →
      deletions t = [] ∧
      (∀ sent a, ⟨.replaceMetadata sent, a⟩ ∈ t →
        sent.metadata.finalizerList = c.metadata.finalizerList ++ [finalizer]) ∧
      ∀ stored kept, Merges r t r' stored kept →
        kept.metadata.finalizerList = stored.metadata.finalizerList ++ [finalizer]) ∧
    ((∀ stored kept, ¬ Merges r t r' stored kept) → finalizersOf r' = finalizersOf r) := by
  refine ⟨fun hd hf hp => ?_, fun hc => ?_, hs.of_load.finalizers⟩
  · obtain ⟨phase, hp⟩ := Option.isSome_iff_exists.mp hp
    exact departure_of_pass hr h hs hd hf hp
  cases hd : c.metadata.isDeleting with
  | false =>
    refine ⟨deletions_of_staying hd h, ?_, fun _ _ hm => guarded_of_merges h hr hs hd hm⟩
    intro sent a hx
    obtain ⟨u, v, ht⟩ := List.append_of_mem hx
    obtain ⟨-, rfl⟩ := guard_of_merge h hd ht
    rfl
  | true =>
    have hi := idle_of_unheld hd (hc.resolve_left (by simp [hd])) h
    have hn := not_merging_idle hi
    refine ⟨deletions_idle hi, fun sent a hx => absurd ⟨sent, rfl⟩ (hn _ hx), ?_⟩
    rintro stored kept ⟨u, sent, a, v, r₁, rfl, -⟩
    exact absurd ⟨sent, rfl⟩ (hn ⟨.replaceMetadata sent, a⟩ (by simp))

/-! ## An object that several hold -/

namespace Sample

def departing : Cluster where
  metadata := { cluster.metadata with
    deletionTimestamp := some now
    finalizers := some ["backups", finalizer, "audit", finalizer] }
  spec := cluster.spec
  status := some { Resource.Cluster.Status.empty with
    phase := "ready", cluster := { Resource.Cluster.Summary.empty with id := "c1" } }

/-- The mark loses a race, and the cluster is gone already. -/
def toldDeparture : List (Exchange Answer) :=
  [⟨.now, now⟩, ⟨.replaceStatus (entered departing .deleting now), .error (.conflict "")⟩,
    ⟨.deleteCluster "c1", .error .notFound⟩]

def departed : Cluster := withVersion (released departing) "2"

def afterDeparture : Record := (Record.start departing).put .main departed

def toldRelease : List (Exchange Answer) :=
  [⟨.replaceMetadata (released departing), .ok departed⟩, ⟨.loginState, .active⟩,
    ⟨.note (.login .active), ()⟩, ⟨.note (.succeeded Sample.key), ()⟩]

theorem ends_departure :
    Ends pass (⟨.load Sample.key, .ok departing⟩ :: (toldDeparture ++ toldRelease))
      (.ok .awaitChange) :=
  .later (.later (.later (.later (.later (.later (.later (.later .now)))))))

theorem served_departure : Served (.start departing) toldDeparture (.start departing) :=
  .apart rfl (.deals rfl .refused (.apart rfl .nil))

theorem accepts_departure : (Record.start departing).Accepts .main (released departing) departed :=
  ⟨departing, "2", rfl, rfl, by decide, rfl⟩

theorem served_release : Served (.start departing) toldRelease afterDeparture :=
  .deals rfl (.accepted accepts_departure) (.apart rfl (.apart rfl (.apart rfl .nil)))

theorem merges_departure : Merges (.start departing) (toldDeparture ++ toldRelease) afterDeparture
    departing departed :=
  ⟨toldDeparture, _, _, _, _, rfl, served_departure, rfl, accepts_departure,
    .apart rfl (.apart rfl (.apart rfl .nil))⟩

end Sample

theorem deletion_pass_held : ∃ t r', Departure Sample.departing (.start Sample.departing) t r' ∧
    deletions t = ["c1"] ∧ Merges (.start Sample.departing) t r' Sample.departing Sample.departed ∧
    r'.current = some Sample.departed ∧
    Sample.departed.metadata.finalizerList = ["backups", "audit"] := by
  have hs : Served (.start Sample.departing) (⟨.load Sample.key, .ok Sample.departing⟩ ::
      (Sample.toldDeparture ++ Sample.toldRelease)) Sample.afterDeparture :=
    .deals rfl (.read List.mem_cons_self) (Sample.served_departure.append Sample.served_release)
  obtain ⟨hd, -, -⟩ := deletion_pass (Record.sound_start _) Sample.ends_departure hs
  have hdep := hd rfl (by decide) (by decide)
  obtain ⟨-, hl, hc⟩ := hdep.accepted Sample.merges_departure
  have hk : Sample.departed.metadata.finalizerList = ["backups", "audit"] := hl.trans (by decide)
  refine ⟨_, _, hdep, hdep.deletions, Sample.merges_departure, ?_, hk⟩
  rw [hc, hk]
  rfl

end ClusterOperator.Reconcile
