import ClusterOperator.Proofs.Reconcile.Steering

/-!
# Letting go of an object

A pass takes the operator's guard away only after each cluster whose id the
object ever recorded was deleted. What was created, but never recorded, stays
behind.
-/

namespace ClusterOperator.Reconcile

open Resource (Cluster ObjectKey)
open Kubernetes (Part)
open Store (merge versionOf withVersion)

/-! ## The release of one pass -/

/-- A write to a stored object that is accepted, and takes the guard away. -/
def LetsGo (r : Store.Record) (stored : Cluster) (r' : Store.Record) : Prop :=
  r.current = some stored ∧ stored.metadata.hasFinalizer finalizer ∧
    ∃ kept, r'.versions = kept :: r.versions ∧ kept.metadata.hasFinalizer finalizer = false

theorem cleared_of_inquires {r : Store.Record} (hr : r.Sound) {s : Settings}
    {c stored sent : Cluster} {t : List (Exchange Answer)} {part : Part}
    (h : Inquires s c t (writing part sent)) (hf : Fits r.versions c t)
    (hs : stored ∈ r.versions) (hv : versionOf sent = versionOf stored)
    (hg : stored.metadata.hasFinalizer finalizer)
    (hk : (merge part stored sent).metadata.hasFinalizer finalizer = false) :
    ∃ u, Cleared stored.clusterId u ∧ u ⊆ t := by
  cases part with
  | status => exact absurd (hg.symm.trans hk) (by decide)
  | main =>
    rcases inquires_replaceMetadata h with ⟨-, -, rfl⟩ | ⟨c', t, u, rfl, -, hm, hc, rfl⟩
    · exact absurd ((guarded_hasFinalizer c).symm.trans hk) (by decide)
    · obtain ⟨hm', hi, -⟩ := hf.marked hr hm
      obtain rfl := hr.eq_of_version hs hm' hv.symm
      exact ⟨u, hi ▸ hc, List.subset_append_right _ _⟩

/-! ## Whole runs -/

/-- What a provider makes, by id: a cluster for each create request that it
accepts, whether or not the answer arrives. -/
inductive Creates : List String → Exchange Answer → List String → Prop
  | made {made : List String} {id : String} {r : Provider.CreateRequest}
      {a : Except Provider.Error Unit} : id ∉ made →
    Creates made ⟨.createCluster r, a⟩ (id :: made)
  | refused {made : List String} {r : Provider.CreateRequest} {e : Provider.Error} :
    Creates made ⟨.createCluster r, .error e⟩ made
  | apart {made : List String} {x : Exchange Answer} :
    (∀ r, x.question ≠ .createCluster r) → Creates made x made

def provisioning (key : ObjectKey) (edits : Cluster → Cluster → Prop) :
    Environment Answer (Except Error Action) (Store.Record × List String) :=
  Store.surroundings (PassOver key) dealing edits Creates

section
variable {key : ObjectKey} {edits : Cluster → Cluster → Prop} {c stored : Cluster}
  {w w' : Scene Answer (Except Error Action) (Store.Record × List String)} {i : Nat}
  {x : Exchange Answer}

def Deleted (w : Scene Answer (Except Error Action) (Store.Record × List String)) (id : String) :
    Prop :=
  ∃ e ∈ w.errands, ∃ a, ⟨.deleteCluster id, a⟩ ∈ e.told ∧ tookDelete a

/-- A lookup by the id was answered with a detail of another cluster. -/
def Misled (w : Scene Answer (Except Error Action) (Store.Record × List String)) (id : String) :
    Prop :=
  ∃ d, d.isEmpty = false ∧ d.id ≠ id ∧ ∃ e ∈ w.errands, ⟨.clusterDetail id, .ok d⟩ ∈ e.told

theorem Misled.step {id : String} (h : Misled w id) (hs : (provisioning key edits).Step w w') :
    Misled w' id := by
  obtain ⟨d, hd, hn, he⟩ := h
  exact ⟨d, hd, hn, hs.told he⟩

theorem kept_or_misled (h : (provisioning key edits).Runs (.start (.start c, [])) w)
    (ht : (provisioning key edits).Turn w i x w') (hc : w.state.1.current = some stored)
    {kept : Cluster} (hn : w'.state.1.versions = kept :: w.state.1.versions) {id : String}
    (hid : stored.clusterId = some id) : kept.clusterId = some id ∨ Misled w id := by
  obtain ⟨e, he, k, loaded, t, htold, hk | ⟨sent, hr, hk⟩⟩ := rewrites_of_turn h ht hc hn
  · exact .inl ((clusterId_of_status hk).trans hid)
  · rcases hr.clusterId hid with hs | ⟨d, hm, hd, hne⟩
    · exact .inl ((clusterId_of_status hk).trans hs)
    · exact .inr ⟨d, hd, hne, e, List.mem_of_getElem? he, by simp [htold, hm]⟩

/-- The latest version records the id, unless a pass was misled. -/
def StaysRecorded (w : Scene Answer (Except Error Action) (Store.Record × List String)) (id : String) :
    Prop :=
  Misled w id ∨ ∀ newest, w.state.1.versions.head? = some newest → newest.clusterId = some id

theorem StaysRecorded.step (h : (provisioning key edits).Runs (.start (.start c, [])) w)
    (hs : (provisioning key edits).Step w w') {id : String} (hid : StaysRecorded w id) :
    StaysRecorded w' id := by
  have hE : Store.Keeps (provisioning key edits) dealing Prod.fst edits := Store.keeps_surroundings
  have hr := hE.sound (Store.Record.sound_start c) h
  rcases hid with hm | hl
  · exact .inl (hm.step hs)
  rcases hE.version_cases hs with hn | ⟨stored, kept, hc, hn, hk⟩
  · refine .inr fun newest h => hl newest ?_
    rwa [hn] at h
  have hstored : stored.clusterId = some id := hl stored (hr.latest _ hc)
  -- what is stored was the latest version, and now `kept` is
  have head : kept.clusterId = some id → StaysRecorded w' id := by
    refine fun hid => .inr fun newest h => ?_
    rw [hn] at h
    exact Option.some.inj h ▸ hid
  rcases hk with ⟨i, x, ht⟩ | hk
  · rcases kept_or_misled h ht hc hn hstored with hid | hm
    · exact head hid
    · exact .inl (hm.step hs)
  · exact head ((clusterId_of_status hk).trans hstored)

theorem stays_recorded (h : (provisioning key edits).Runs (.start (.start c, [])) w) {id : String}
    (hv : ∃ v ∈ w.state.1.versions, v.clusterId = some id) : StaysRecorded w id := by
  have hE : Store.Keeps (provisioning key edits) dealing Prod.fst edits := Store.keeps_surroundings
  revert hv
  refine Environment.Runs.invariant
    (P := fun w => (∃ v ∈ w.state.1.versions, v.clusterId = some id) → StaysRecorded w id) ?_ ?_ h
  · rintro ⟨v, hv, hid⟩
    obtain rfl := List.mem_singleton.mp hv
    exact .inr fun newest hn => Option.some.inj hn ▸ hid
  · intro w w' hw ih hs hv
    rcases hE.version_cases hs with hn | ⟨stored, kept, -, hn, -⟩
    · rw [hn] at hv
      exact (ih hv).step hw hs
    · rw [hn] at hv
      obtain ⟨v, hv, hid⟩ := hv
      rcases List.mem_cons.mp hv with rfl | hv
      · refine .inr fun newest h => ?_
        rw [hn] at h
        exact Option.some.inj h ▸ hid
      · exact (ih ⟨v, hv, hid⟩).step hw hs

/-- When the guard of an object is taken away, each cluster whose id it ever
recorded was deleted before. Only an id that was replaced, as a lookup by it
was answered with another cluster, is left out. -/
theorem recorded_deleted (h : (provisioning key edits).Runs (.start (.start c, [])) w)
    (ht : (provisioning key edits).Turn w i x w') (hl : LetsGo w.state.1 stored w'.state.1) {id : String}
    (hv : ∃ v ∈ w.state.1.versions, v.clusterId = some id) :
    Deleted w id ∨ (stored.clusterId ≠ some id ∧ Misled w id) := by
  have hE : Store.Keeps (provisioning key edits) dealing Prod.fst edits := Store.keeps_surroundings
  have hr := hE.sound (Store.Record.sound_start c) h
  have hrec := stays_recorded h hv
  obtain ⟨hc, hg, kept, hn, hf⟩ := hl
  by_cases hid : stored.clusterId = some id
  · obtain ⟨part, sent, a, hx, b, v, hb, hv, -, rfl⟩ := hE.accepts_of_new ht hn
    obtain rfl : b = stored := Option.some.inj (hb.symm.trans hc)
    obtain ⟨e, he, -, ha⟩ := ht.mem
    obtain ⟨s, key, c₁, t, ht, hi, hfits⟩ := fits_of_asks h he ha hx
    obtain ⟨u, hu, hs⟩ := cleared_of_inquires hr hi hfits (hr.current_mem hc) hv hg hf
    rw [hid] at hu
    cases hu with
    | some hd =>
      refine .inl ⟨e, he, _, ?_, hd⟩
      rw [ht]
      exact List.mem_cons_of_mem _ (hs List.mem_cons_self)
  · refine .inr ⟨hid, hrec.resolve_right fun hl => hid (hl stored (hr.latest _ hc))⟩

end

/-! ## An object that is deleted late, and one that is deleted early -/

def RequestsDeletion (stored kept : Cluster) : Prop :=
  ∃ t v, kept = { stored with
    metadata := { stored.metadata with deletionTimestamp := some t, resourceVersion := some v } }

namespace Sample

def toldSetup : List (Exchange Answer) :=
  [⟨.load key, .ok fresh⟩, ⟨.now, now⟩, ⟨.replaceStatus (entered fresh .pending now), .ok pending⟩]

def toldCreation : List (Exchange Answer) :=
  [⟨.load key, .ok pending⟩, ⟨.createCluster (pending.spec.createRequest "t1"), .ok ()⟩,
    ⟨.now, now⟩, ⟨.replaceStatus (entered pending .creating now), .ok creating⟩]

/-- One pass sets the object up, the next has its cluster `c1` created. -/
theorem creating_runs : (provisioning key RequestsDeletion).Runs (.start (.start fresh, []))
    ⟨(⟨some creating, [creating, pending, fresh]⟩, ["c1"]), [⟨pass, toldSetup⟩, ⟨pass, toldCreation⟩]⟩ := by
  have h₀ : (provisioning key RequestsDeletion).Runs (.start (.start fresh, []))
      ⟨(.start fresh, []), [⟨pass, []⟩]⟩ := Environment.Runs.starts .refl passOver
  have h₁ := h₀.turns 0 ⟨.load key, .ok fresh⟩ (.start fresh, []) rfl .now
    (Store.deals_answers rfl (.read List.mem_cons_self) (.apart nofun))
  have h₂ := h₁.turns 0 ⟨.now, now⟩ (.start fresh, []) rfl (.later .now)
    (Store.apart_answers rfl (.apart nofun))
  have h₃ := h₂.turns 0 ⟨.replaceStatus (entered fresh .pending now), .ok pending⟩
    (⟨some pending, [pending, fresh]⟩, []) rfl (.later (.later .now))
    (Store.deals_answers rfl (.accepted ⟨fresh, "2", rfl, rfl, by decide, rfl⟩) (.apart nofun))
  have h₄ := h₃.starts passOver
  have h₅ := h₄.turns 1 ⟨.load key, .ok pending⟩ (⟨some pending, [pending, fresh]⟩, []) rfl .now
    (Store.deals_answers rfl (.read List.mem_cons_self) (.apart nofun))
  have h₆ := h₅.turns 1 ⟨.createCluster (pending.spec.createRequest "t1"), .ok ()⟩
    (⟨some pending, [pending, fresh]⟩, ["c1"]) rfl (.later .now)
    (Store.apart_answers rfl (.made List.not_mem_nil))
  have h₇ := h₆.turns 1 ⟨.now, now⟩ (⟨some pending, [pending, fresh]⟩, ["c1"]) rfl
    (.later (.later .now)) (Store.apart_answers rfl (.apart nofun))
  exact h₇.turns 1 ⟨.replaceStatus (entered pending .creating now), .ok creating⟩
    (⟨some creating, [creating, pending, fresh]⟩, ["c1"]) rfl (.later (.later (.later .now)))
    (Store.deals_answers rfl (.accepted ⟨pending, "3", rfl, rfl, by decide, rfl⟩) (.apart nofun))

def detail : Provider.ClusterDetail := { Provider.ClusterDetail.empty with id := "c1" }

def recorded : Cluster :=
  withVersion (merge .status creating (observed creating detail (.error .notFound) now)) "4"

def toldObservation : List (Exchange Answer) :=
  [⟨.load key, .ok creating⟩, ⟨.clusterNamed creating.spec.name, .ok detail⟩,
    ⟨.connectionRole "c1", .error .notFound⟩, ⟨.now, now⟩,
    ⟨.replaceStatus (observed creating detail (.error .notFound) now), .ok recorded⟩]

def late : Cluster := { recorded with
  metadata := { recorded.metadata with
    deletionTimestamp := some now, resourceVersion := some "5" } }

def toldLate : List (Exchange Answer) :=
  [⟨.load key, .ok late⟩, ⟨.now, now⟩,
    ⟨.replaceStatus (entered late .deleting now), .error (.conflict "")⟩,
    ⟨.deleteCluster "c1", .ok ()⟩]

def lateRecord : Store.Record := ⟨some late, [late, recorded, creating, pending, fresh]⟩

def atLate : Scene Answer (Except Error Action) (Store.Record × List String) :=
  ⟨(lateRecord, ["c1"]), [⟨pass, toldSetup⟩, ⟨pass, toldCreation⟩, ⟨pass, toldObservation⟩,
    ⟨pass, toldLate⟩]⟩

theorem late_runs : (provisioning key RequestsDeletion).Runs (.start (.start fresh, [])) atLate := by
  have h₀ := creating_runs.starts passOver
  have h₁ := h₀.turns 2 ⟨.load key, .ok creating⟩
    (⟨some creating, [creating, pending, fresh]⟩, ["c1"]) rfl .now
    (Store.deals_answers rfl (.read List.mem_cons_self) (.apart nofun))
  have h₂ := h₁.turns 2 ⟨.clusterNamed creating.spec.name, .ok detail⟩
    (⟨some creating, [creating, pending, fresh]⟩, ["c1"]) rfl (.later .now)
    (Store.apart_answers rfl (.apart nofun))
  have h₃ := h₂.turns 2 ⟨.connectionRole "c1", .error .notFound⟩
    (⟨some creating, [creating, pending, fresh]⟩, ["c1"]) rfl (.later (.later .now))
    (Store.apart_answers rfl (.apart nofun))
  have h₄ := h₃.turns 2 ⟨.now, now⟩ (⟨some creating, [creating, pending, fresh]⟩, ["c1"]) rfl
    (.later (.later (.later .now))) (Store.apart_answers rfl (.apart nofun))
  have h₅ := h₄.turns 2
    ⟨.replaceStatus (observed creating detail (.error .notFound) now), .ok recorded⟩
    (⟨some recorded, [recorded, creating, pending, fresh]⟩, ["c1"]) rfl
    (.later (.later (.later (.later .now))))
    (Store.deals_answers rfl (.accepted ⟨creating, "4", rfl, rfl, by decide, rfl⟩) (.apart nofun))
  have hd : Store.Record.Drifts RequestsDeletion
      ⟨some recorded, [recorded, creating, pending, fresh]⟩ lateRecord :=
    @Store.Record.Drifts.edited _ _ recorded late rfl ⟨now, "5", rfl⟩ rfl (fun _ => rfl) (by decide)
  have h₆ := (h₅.drifts (s := (lateRecord, ["c1"])) ⟨hd, rfl⟩).starts passOver
  have h₇ := h₆.turns 3 ⟨.load key, .ok late⟩ (lateRecord, ["c1"]) rfl .now
    (Store.deals_answers rfl (.read List.mem_cons_self) (.apart nofun))
  have h₈ := h₇.turns 3 ⟨.now, now⟩ (lateRecord, ["c1"]) rfl (.later .now)
    (Store.apart_answers rfl (.apart nofun))
  have h₉ := h₈.turns 3 ⟨.replaceStatus (entered late .deleting now), .error (.conflict "")⟩
    (lateRecord, ["c1"]) rfl (.later (.later .now)) (Store.deals_answers rfl .refused (.apart nofun))
  exact h₉.turns 3 ⟨.deleteCluster "c1", .ok ()⟩ (lateRecord, ["c1"]) rfl
    (.later (.later (.later .now))) (Store.apart_answers rfl (.apart nofun))

end Sample

theorem recorded_deleted_late : ∃ w i x w' stored,
    (provisioning Sample.key RequestsDeletion).Runs (.start (.start Sample.fresh, [])) w ∧
      (provisioning Sample.key RequestsDeletion).Turn w i x w' ∧
      LetsGo w.state.1 stored w'.state.1 ∧ w.state.2 = ["c1"] ∧ Deleted w "c1" := by
  let kept := withVersion (released Sample.late) "6"
  have ht : (provisioning Sample.key RequestsDeletion).Turn Sample.atLate 3
      ⟨.replaceMetadata (released Sample.late), .ok kept⟩
      ⟨(Sample.lateRecord.put .main kept, ["c1"]), _⟩ :=
    ⟨⟨Sample.pass, Sample.toldLate⟩, rfl, .later (.later (.later (.later .now))),
      Store.deals_answers rfl (.accepted ⟨Sample.late, "6", rfl, rfl, by decide, rfl⟩)
        (.apart (fun r h => by cases h)), rfl⟩
  have hl : LetsGo Sample.lateRecord Sample.late (Sample.lateRecord.put .main kept) :=
    ⟨rfl, by decide, kept, rfl, by decide⟩
  exact ⟨_, _, _, _, _, Sample.late_runs, ht, hl, rfl,
    (recorded_deleted Sample.late_runs ht hl ⟨Sample.late, List.mem_cons_self, rfl⟩).resolve_right
      fun h => h.1 rfl⟩

namespace Sample

def early : Cluster := { creating with
  metadata := { creating.metadata with
    deletionTimestamp := some now, resourceVersion := some "4" } }

def toldEarly : List (Exchange Answer) :=
  [⟨.load key, .ok early⟩, ⟨.now, now⟩,
    ⟨.replaceStatus (entered early .deleting now), .error (.conflict "")⟩]

def earlyRecord : Store.Record := ⟨some early, [early, creating, pending, fresh]⟩

def atEarly : Scene Answer (Except Error Action) (Store.Record × List String) :=
  ⟨(earlyRecord, ["c1"]), [⟨pass, toldSetup⟩, ⟨pass, toldCreation⟩, ⟨pass, toldEarly⟩]⟩

theorem early_runs : (provisioning key RequestsDeletion).Runs (.start (.start fresh, [])) atEarly := by
  have hd : Store.Record.Drifts RequestsDeletion ⟨some creating, [creating, pending, fresh]⟩
      earlyRecord :=
    @Store.Record.Drifts.edited _ _ creating early rfl ⟨now, "4", rfl⟩ rfl (fun _ => rfl) (by decide)
  have h₀ := creating_runs.drifts (s := (earlyRecord, ["c1"])) ⟨hd, rfl⟩
  have h₁ := h₀.starts passOver
  have h₂ := h₁.turns 2 ⟨.load key, .ok early⟩ (earlyRecord, ["c1"]) rfl .now
    (Store.deals_answers rfl (.read List.mem_cons_self) (.apart nofun))
  have h₃ := h₂.turns 2 ⟨.now, now⟩ (earlyRecord, ["c1"]) rfl (.later .now)
    (Store.apart_answers rfl (.apart nofun))
  exact h₃.turns 2 ⟨.replaceStatus (entered early .deleting now), .error (.conflict "")⟩
    (earlyRecord, ["c1"]) rfl (.later (.later .now)) (Store.deals_answers rfl .refused (.apart nofun))

end Sample

/-- A cluster whose id is not recorded yet is left behind. -/
theorem unrecorded_left_behind : ¬ ∀ {c stored : Cluster}
    {w w' : Scene Answer (Except Error Action) (Store.Record × List String)} {i : Nat}
    {x : Exchange Answer}, c.status = none →
    (provisioning Sample.key RequestsDeletion).Runs (.start (.start c, [])) w →
    (provisioning Sample.key RequestsDeletion).Turn w i x w' →
    LetsGo w.state.1 stored w'.state.1 → ∀ id ∈ w.state.2, Deleted w id := by
  intro h
  let kept := withVersion (released Sample.early) "5"
  have ht : (provisioning Sample.key RequestsDeletion).Turn Sample.atEarly 2
      ⟨.replaceMetadata (released Sample.early), .ok kept⟩
      ⟨(Sample.earlyRecord.put .main kept, ["c1"]), _⟩ :=
    ⟨⟨Sample.pass, Sample.toldEarly⟩, rfl, .later (.later (.later .now)),
      Store.deals_answers rfl (.accepted ⟨Sample.early, "5", rfl, rfl, by decide, rfl⟩)
        (.apart (fun r h => by cases h)), rfl⟩
  obtain ⟨e, he, a, ha, -⟩ := h rfl Sample.early_runs ht
    ⟨rfl, by decide, kept, rfl, by decide⟩ "c1" List.mem_cons_self
  simp only [Sample.atEarly, List.mem_cons, List.not_mem_nil, or_false] at he
  rcases he with rfl | rfl | rfl
  · simp [Sample.toldSetup] at ha
  · simp [Sample.toldCreation] at ha
  · simp [Sample.toldEarly] at ha

end ClusterOperator.Reconcile
