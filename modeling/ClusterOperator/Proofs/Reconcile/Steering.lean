import ClusterOperator.Proofs.Reconcile.Inquiry
import ClusterOperator.Proofs.Store.Record

/-!
# Passes over one object, side by side

What passes deal in with the store, and environments in which all that is
written comes from a pass or from a writer that leaves the status alone. At an
accepted write the object that the pass goes by is the one that is stored.
-/

namespace ClusterOperator.Reconcile

open Resource (Cluster ObjectKey Metadata)
open Kubernetes (Part)
open Program
open Provider (ClusterDetail ConnectionRole)
open Store (Dealing Keeps merge versionOf withVersion)

/-- What an exchange is to the store, if anything. -/
def dealing : Exchange Answer → Option Dealing
  | ⟨.load _, r⟩ => some (.load r)
  | ⟨.replaceMetadata c, r⟩ => some (.replace .main c r)
  | ⟨.replaceStatus c, r⟩ => some (.replace .status c r)
  | _ => none

def writing : Part → Cluster → Question
  | .main, c => .replaceMetadata c
  | .status, c => .replaceStatus c

theorem question_of_dealing {x : Exchange Answer} {part : Part} {sent : Cluster}
    {r : Except Store.Error Cluster} (h : dealing x = some (.replace part sent r)) :
    x.question = writing part sent := by
  obtain ⟨q, a⟩ := x
  cases q <;> cases h <;> rfl

def PassOver (key : ObjectKey) (p : Program Answer (Except Error Action)) : Prop :=
  ∃ s event, event.key = key ∧ p = reconcile s event

section
variable {Q : Type} {A : Q → Type} {α σ : Type}

/-- An environment whose programs write for the reasons of passes. -/
structure Steered (E : Environment A α σ) (dealing : Exchange A → Option Dealing)
    (record : σ → Store.Record) (edits : Cluster → Cluster → Prop) : Prop
    extends Keeps E dealing record edits where
  inquires {p : Program A α} {told : List (Exchange A)} {x : Exchange A} {part : Part}
      {sent : Cluster} {r : Except Store.Error Cluster} : E.starts p → p.Asks told x.question →
    dealing x = some (.replace part sent r) →
    ∃ s c t, Inquires s c t (writing part sent) ∧
      (∃ y ∈ told, dealing y = some (.load (.ok c))) ∧
      ∀ y ∈ t, ∀ d, Reconcile.dealing y = some d → ∃ z ∈ told, dealing z = some d

end

theorem PassOver.inquires {key : ObjectKey} {p : Program Answer (Except Error Action)}
    (hp : PassOver key p) {told : List (Exchange Answer)} {x : Exchange Answer} {part : Part}
    {sent : Cluster} {r : Except Store.Error Cluster} (ha : p.Asks told x.question)
    (hx : dealing x = some (.replace part sent r)) :
    ∃ s key c t, told = ⟨.load key, .ok c⟩ :: t ∧ Inquires s c t (writing part sent) := by
  obtain ⟨s, event, -, rfl⟩ := hp
  rw [question_of_dealing hx] at ha
  refine ⟨s, ?_⟩
  rcases inquires_of_asks ha with ⟨_, -, h⟩ | (h | ⟨_, h⟩) | h
  · cases part <;> cases h
  · cases part <;> cases h
  · cases part <;> cases h
  · exact h

theorem steered_surroundings {τ : Type} {key : ObjectKey} {edits : Cluster → Cluster → Prop}
    {tells : τ → Exchange Answer → τ → Prop} :
    Steered (Store.surroundings (PassOver key) dealing edits tells) dealing Prod.fst edits where
  toKeeps := Store.keeps_surroundings
  inquires hp ha hx := by
    obtain ⟨s, key, c, t, rfl, hi⟩ := hp.inquires ha hx
    exact ⟨s, c, t, hi, ⟨_, List.mem_cons_self, rfl⟩,
      fun y hy d hd => ⟨y, List.mem_cons_of_mem _ hy, hd⟩⟩

/-! ## What passes go by -/

/-- A loaded object, and what was told since, that fit in a record. -/
def Fits (versions : List Cluster) (c : Cluster) (told : List (Exchange Answer)) : Prop :=
  c ∈ versions ∧ ∀ y ∈ told, ∀ d, dealing y = some d → d.FitsIn versions

theorem Fits.kept {r : Store.Record} (hr : r.Sound) {c sent kept : Cluster}
    {told : List (Exchange Answer)} (h : Fits r.versions c told) {part : Part}
    {y : Exchange Answer} (hy : y ∈ told) (hd : dealing y = some (.replace part sent (.ok kept)))
    (hv : versionOf sent = versionOf c) :
    kept ∈ r.versions ∧ ∃ v, kept = withVersion (merge part c sent) v := by
  obtain ⟨hk, stored, hs, hv', hw⟩ := h.2 y hy _ hd
  obtain rfl := hr.eq_of_version h.1 hs (hv ▸ hv')
  exact ⟨hk, hw⟩

theorem Fits.marked {r : Store.Record} (hr : r.Sound) {c c' : Cluster}
    {t u : List (Exchange Answer)} (hf : Fits r.versions c (t ++ u)) (hm : Marked c c' t) :
    c' ∈ r.versions ∧ c'.clusterId = c.clusterId ∧
      c'.metadata.isDeleting = c.metadata.isDeleting := by
  cases hm with
  | already => exact ⟨hf.1, rfl, rfl⟩
  | failed => exact ⟨hf.1, rfl, rfl⟩
  | done =>
    obtain ⟨hk, v, rfl⟩ := hf.kept hr
      (List.mem_append_left _ (List.mem_cons_of_mem _ List.mem_cons_self)) rfl rfl
    exact ⟨hk, entered_clusterId .., rfl⟩

theorem Fits.spec {r : Store.Record} (hr : r.Sound) {s : Settings} {c sent : Cluster}
    {t : List (Exchange Answer)} (hf : Fits r.versions c t)
    (h : Inquires s c t (.replaceMetadata sent)) : ∃ b ∈ r.versions, sent.spec = b.spec := by
  rcases inquires_replaceMetadata h with ⟨-, -, rfl⟩ | ⟨c', t, u, rfl, -, hm, -, rfl⟩
  · exact ⟨c, hf.1, rfl⟩
  · exact ⟨c', (hf.marked hr hm).1, rfl⟩

/-- What a phase is entered on. -/
inductive Entering (c : Cluster) : Phase → Prop
  | pending : c.metadata.hasFinalizer finalizer → Phase.ofText? c.phaseText = some .unknown →
    Entering c .pending
  | creating : c.metadata.isDeleting = false → Phase.ofText? c.phaseText = some .pending →
    Entering c .creating
  | deleting {phase : Phase} : c.metadata.isDeleting → Phase.ofText? c.phaseText = some phase →
    c.phaseText ≠ Phase.deleting.text → Entering c .deleting

/-- What a status write sends if it is accepted for a stored object: a phase to
enter, or a detail that was looked up for the very object. -/
inductive Rewrites (c : Cluster) : List (Exchange Answer) → Cluster → Cluster → Prop
  | entered {t : List (Exchange Answer)} {stored : Cluster} {phase : Phase} {now : Timestamp} :
    Entering stored phase → Rewrites c t stored (entered stored phase now)
  | observed {d : ClusterDetail} {u v : List (Exchange Answer)}
      {role : Except Provider.Error ConnectionRole} {now : Timestamp} :
    c.metadata.isDeleting = false → Phase.ofText? c.phaseText = some .creating →
    Ends (lookUp c).run u (.ok d) → d.isEmpty = false →
    Takes c d v (.replaceStatus (observed c d role now)) →
    Rewrites c (u ++ v) c (observed c d role now)

theorem Fits.rewrites {r : Store.Record} (hr : r.Sound) {s : Settings} {c stored sent : Cluster}
    {t : List (Exchange Answer)} (hf : Fits r.versions c t)
    (h : Inquires s c t (.replaceStatus sent)) (hs : stored ∈ r.versions)
    (hv : versionOf sent = versionOf stored) : Rewrites c t stored sent := by
  -- an accepted write names the version that is stored, so the pass went by it
  have same : ∀ {b : Cluster}, b ∈ r.versions → versionOf sent = versionOf b → stored = b :=
    fun hb hv' => hr.eq_of_version hs hb (hv ▸ hv')
  cases h with
  | mark hd hp hn he =>
    cases he
    obtain rfl := same hf.1 rfl
    exact .entered (.deleting hd hp hn)
  | guardedSetup _ hp he =>
    cases he
    obtain ⟨hk, w, rfl⟩ := hf.kept hr List.mem_cons_self rfl rfl
    obtain rfl := same hk rfl
    exact .entered (.pending (guarded_hasFinalizer c) hp)
  | setup _ hg hp he =>
    cases he
    obtain rfl := same hf.1 rfl
    exact .entered (.pending hg hp)
  | created hd hp _ _ he =>
    cases he
    obtain rfl := same hf.1 rfl
    exact .entered (.creating hd hp)
  | observed hd hp hl hn ht =>
    cases ht with
    | write =>
      obtain rfl := same hf.1 rfl
      exact .observed hd hp hl hn .write

/-- An accepted status write keeps the recorded id, or takes it from a detail
that was looked up for what is stored. -/
theorem recording_of_inquires {r : Store.Record} (hr : r.Sound) {s : Settings}
    {c stored sent : Cluster} {t : List (Exchange Answer)}
    (h : Inquires s c t (.replaceStatus sent)) (hf : Fits r.versions c t)
    (hs : stored ∈ r.versions) (hv : versionOf sent = versionOf stored) :
    sent.clusterId = stored.clusterId ∨ ∃ d u v, t = u ++ v ∧ stored = c ∧
      Phase.ofText? c.phaseText = some .creating ∧ Ends (lookUp c).run u (.ok d) ∧
      d.isEmpty = false ∧ sent.clusterId = some d.id ∧ Takes c d v (.replaceStatus sent) := by
  cases hf.rewrites hr h hs hv with
  | entered _ => exact .inl (entered_clusterId ..)
  | observed _ hp hl hd ht =>
    exact .inr ⟨_, _, _, rfl, rfl, hp, hl, hd, observed_clusterId c hd _ _, ht⟩

/-- A recorded id is kept, but for an answer with a detail of another cluster. -/
theorem Rewrites.clusterId {c stored sent : Cluster} {t : List (Exchange Answer)}
    (h : Rewrites c t stored sent) {id : String} (hid : stored.clusterId = some id) :
    sent.clusterId = some id ∨
      ∃ d, ⟨.clusterDetail id, .ok d⟩ ∈ t ∧ d.isEmpty = false ∧ d.id ≠ id := by
  cases h with
  | entered _ => exact .inl ((entered_clusterId ..).trans hid)
  | @observed d u v role now _ _ hl hd _ =>
    rcases ends_lookUp hl with ⟨id', hid', rfl⟩ | ⟨hnone, -⟩
    · obtain rfl := Option.some.inj (hid.symm.trans hid')
      by_cases he : d.id = id
      · exact .inl (he ▸ observed_clusterId c hd role now)
      · exact .inr ⟨d, by simp, hd, he⟩
    · cases hnone.symm.trans hid

/-- A step as the versions of the object show it: a pass has written, another
writer has, or there is no new version. -/
inductive Growth (edits : Cluster → Cluster → Prop) (r : Store.Record) : List Cluster → Prop
  | none : Growth edits r r.versions
  | pass {s : Settings} {c stored sent : Cluster} {t : List (Exchange Answer)} {part : Part}
      {v : String} : Inquires s c t (writing part sent) → Fits r.versions c t →
    r.current = some stored → versionOf sent = versionOf stored →
    Growth edits r (withVersion (merge part stored sent) v :: r.versions)
  | other {stored kept : Cluster} : r.current = some stored → edits stored kept →
    kept.status = stored.status → (stored.metadata.isDeleting → kept.metadata.isDeleting) →
    Growth edits r (kept :: r.versions)

section
variable {Q : Type} {A : Q → Type} {α σ : Type} {E : Environment A α σ}
  {dealing : Exchange A → Option Dealing} {record : σ → Store.Record}
  {edits : Cluster → Cluster → Prop}

theorem fits_of_told (hE : Keeps E dealing record edits) {s₀ : σ} (h₀ : (record s₀).Sound)
    {w : Scene A α σ} (h : E.Runs (.start s₀) w) {e : Errand A α} (he : e ∈ w.errands) {c : Cluster}
    {t : List (Exchange Answer)} (hl : ∃ y ∈ e.told, dealing y = some (.load (.ok c)))
    (ht : ∀ y ∈ t, ∀ d, Reconcile.dealing y = some d → ∃ z ∈ e.told, dealing z = some d) :
    Fits (record w.state).versions c t := by
  obtain ⟨y, hy, hl⟩ := hl
  refine ⟨hE.fitsIn h₀ h he hy hl, fun y hy d hd => ?_⟩
  obtain ⟨z, hz, hd⟩ := ht y hy d hd
  exact hE.fitsIn h₀ h he hz hd

theorem Steered.fits (hE : Steered E dealing record edits) {s₀ : σ} (h₀ : (record s₀).Sound)
    {w : Scene A α σ} (h : E.Runs (.start s₀) w) {e : Errand A α} (he : e ∈ w.errands)
    {x : Exchange A} (ha : e.program.Asks e.told x.question) {part : Part} {sent : Cluster}
    {r : Except Store.Error Cluster} (hx : dealing x = some (.replace part sent r)) :
    ∃ s c t, Inquires s c t (writing part sent) ∧ Fits (record w.state).versions c t := by
  obtain ⟨s, c, t, hi, hl, ht⟩ := hE.inquires (h.genuine e he).1 ha hx
  exact ⟨s, c, t, hi, fits_of_told hE.toKeeps h₀ h he hl ht⟩

theorem Steered.growth (hE : Steered E dealing record edits) {s₀ : σ} (h₀ : (record s₀).Sound)
    {w w' : Scene A α σ} (h : E.Runs (.start s₀) w) (hs : E.Step w w') :
    Growth edits (record w.state) (record w'.state).versions := by
  have accepted : ∀ {i x part sent kept r}, E.Turn w i x w' →
      dealing x = some (.replace part sent r) → (record w.state).Accepts part sent kept →
      Growth edits (record w.state) (kept :: (record w.state).versions) := by
    rintro i x part sent kept r ht hd ⟨stored, v, hc, hv, -, rfl⟩
    obtain ⟨e, he, -, ha⟩ := ht.mem
    obtain ⟨s, c, t, hi, hf⟩ := hE.fits h₀ h he ha hd
    exact .pass hi hf hc hv
  rcases hE.step_cases hs with h₁ | ⟨i, x, d, ht, hd, h₁⟩ | h₁
  · rw [h₁]
    exact .none
  · generalize record w'.state = r' at h₁
    cases h₁ with
    | read _ => exact .none
    | unread => exact .none
    | accepted ha => exact accepted ht hd ha
    | lost ha => exact accepted ht hd ha
    | refused => exact .none
  · generalize record w'.state = r' at h₁
    cases h₁ with
    | edited hc he hk hm _ => exact .other hc he hk hm
    | removed _ _ => exact .none

/-- What holds of the object at first, and of each version that is made from one
of which it holds, holds of all versions. -/
theorem Steered.throughout (hE : Steered E dealing record edits) {P : Cluster → Prop}
    (hp : ∀ {r : Store.Record} {s : Settings} {c stored sent : Cluster}
      {t : List (Exchange Answer)} {part : Part} (v : String), r.Sound → (∀ b ∈ r.versions, P b) →
      Inquires s c t (writing part sent) → Fits r.versions c t → r.current = some stored →
      versionOf sent = versionOf stored → P (withVersion (merge part stored sent) v))
    (ho : ∀ {stored kept : Cluster}, P stored → edits stored kept → kept.status = stored.status →
      (stored.metadata.isDeleting → kept.metadata.isDeleting) → P kept)
    {s₀ : σ} {c : Cluster} (h₀ : record s₀ = .start c) (hc : P c) {w : Scene A α σ}
    (h : E.Runs (.start s₀) w) : ∀ v ∈ (record w.state).versions, P v := by
  have hs : (record s₀).Sound := h₀ ▸ Store.Record.sound_start c
  refine Environment.Runs.invariant (P := fun w => ∀ v ∈ (record w.state).versions, P v) ?_ ?_ h
  · simp only [Scene.start, h₀, Store.Record.start]
    intro v hv
    rw [List.mem_singleton.mp hv]
    exact hc
  · intro w w' hw ih hstep
    have hr := hE.sound hs hw
    have hg := hE.growth hs hw hstep
    generalize (record w'.state).versions = vs at hg
    cases hg with
    | none => exact ih
    | @pass s c stored sent t part v hi hf hc hv =>
      exact List.forall_mem_cons.mpr ⟨hp v hr ih hi hf hc hv, ih⟩
    | @other stored kept hc he hk hd =>
      exact List.forall_mem_cons.mpr ⟨ho (ih stored (hr.current_mem hc)) he hk hd, ih⟩

theorem Steered.spec (hE : Steered E dealing record edits)
    (hk : ∀ {old new}, edits old new → new.spec = old.spec) {s₀ : σ} {c : Cluster}
    (h₀ : record s₀ = .start c) {w : Scene A α σ} (h : E.Runs (.start s₀) w) :
    ∀ v ∈ (record w.state).versions, v.spec = c.spec := by
  refine hE.throughout (P := fun v => v.spec = c.spec) ?_ ?_ h₀ rfl h
  · intro r s c₁ stored sent t part v hr ih hi hf hc _
    cases part with
    | main =>
      obtain ⟨b, hb, hs⟩ := hf.spec hr hi
      exact hs.trans (ih b hb)
    | status => exact ih stored (hr.current_mem hc)
  · intro stored kept ih he _ _
    exact (hk he).trans ih

end

theorem fits_of_asks {τ : Type} {key : ObjectKey} {edits : Cluster → Cluster → Prop}
    {tells : τ → Exchange Answer → τ → Prop} {c : Cluster} {a : τ}
    {w : Scene Answer (Except Error Action) (Store.Record × τ)}
    (h : (Store.surroundings (PassOver key) dealing edits tells).Runs (.start (.start c, a)) w)
    {e : Errand Answer (Except Error Action)} (he : e ∈ w.errands) {x : Exchange Answer}
    (ha : e.program.Asks e.told x.question) {part : Part} {sent : Cluster}
    {r : Except Store.Error Cluster} (hx : dealing x = some (.replace part sent r)) :
    ∃ s key c t, e.told = ⟨.load key, .ok c⟩ :: t ∧ Inquires s c t (writing part sent) ∧
      Fits w.state.1.versions c t := by
  obtain ⟨s, key, c₁, t, ht, hi⟩ := (h.genuine e he).1.inquires ha hx
  refine ⟨s, key, c₁, t, ht, hi, ?_⟩
  refine fits_of_told Store.keeps_surroundings (Store.Record.sound_start c) h he ?_ ?_
  · exact ⟨_, ht ▸ List.mem_cons_self, rfl⟩
  · exact fun y hy d hd => ⟨y, ht ▸ List.mem_cons_of_mem _ hy, hd⟩

/-- A write that is accepted leaves the status, or rewrites it for what the
pass had loaded. -/
theorem rewrites_of_turn {τ : Type} {key : ObjectKey} {edits : Cluster → Cluster → Prop}
    {tells : τ → Exchange Answer → τ → Prop} {c stored kept : Cluster} {a : τ}
    {w w' : Scene Answer (Except Error Action) (Store.Record × τ)} {i : Nat} {x : Exchange Answer}
    (h : (Store.surroundings (PassOver key) dealing edits tells).Runs (.start (.start c, a)) w)
    (ht : (Store.surroundings (PassOver key) dealing edits tells).Turn w i x w')
    (hc : w.state.1.current = some stored)
    (hn : w'.state.1.versions = kept :: w.state.1.versions) :
    ∃ e, w.errands[i]? = some e ∧ ∃ k loaded t, e.told = ⟨.load k, .ok loaded⟩ :: t ∧
      (kept.status = stored.status ∨
        ∃ sent, Rewrites loaded t stored sent ∧ kept.status = sent.status) := by
  have hE : Keeps (Store.surroundings (PassOver key) dealing edits tells) dealing Prod.fst edits :=
    Store.keeps_surroundings
  have hr := hE.sound (Store.Record.sound_start c) h
  obtain ⟨part, sent, _, hx, b, v, hb, hv, -, rfl⟩ := hE.accepts_of_new ht hn
  obtain rfl : b = stored := Option.some.inj (hb.symm.trans hc)
  obtain ⟨e, he, hi, ha⟩ := ht.mem
  obtain ⟨s, k, loaded, t, ht, hq, hf⟩ := fits_of_asks h he ha hx
  refine ⟨e, hi, k, loaded, t, ht, ?_⟩
  cases part with
  | main => exact .inl rfl
  | status => exact .inr ⟨sent, hf.rewrites hr hq (hr.current_mem hc) hv, rfl⟩

/-! ## An object to try passes on -/

namespace Sample

def key : ObjectKey := ⟨"default", "db1"⟩

def cluster : Cluster where
  metadata := { Resource.Metadata.empty with
    name := some "db1", ns := some "default", resourceVersion := some "1" }
  spec := ⟨"prod", some "t1", "hobby-2", 10, "aws", "us-east-1", 16, false⟩
  status := none

def now : Timestamp := ⟨2024, 1, 1, 0, 0, 0, 0, by decide, by decide, by decide, by decide, by decide⟩

def pass : Program Answer (Except Error Action) := reconcile .start cluster.metadata

theorem passOver : PassOver key pass := ⟨.start, cluster.metadata, rfl, rfl⟩

/-- What a status write of a phase leaves. -/
def inPhase (c : Cluster) (phase : Phase) (v : String) : Cluster :=
  withVersion (merge .status c (entered c phase now)) v

def fresh : Cluster := guarded cluster

def pending : Cluster := inPhase fresh .pending "2"

def creating : Cluster := inPhase pending .creating "3"

end Sample

end ClusterOperator.Reconcile
