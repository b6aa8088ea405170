import Mathlib.Data.List.Chain
import Mathlib.Data.List.Nodup
import ClusterOperator.Kubernetes.Api
import ClusterOperator.Proofs.Program.Scene

/-!
# The record of one object

What passes rely on in the API server that stores an object: a write is taken
only from a writer that has seen the latest version, and makes a version that
there never was. Reads may be stale, answers may get lost, and other writers
may come between. Every version is kept, so that what a program has seen can
be compared with what is stored.
-/

namespace ClusterOperator.Store

open Resource (Cluster)
open Kubernetes (Part)

inductive Dealing where
  | load (r : Except Error Cluster)
  | replace (part : Part) (sent : Cluster) (r : Except Error Cluster)

def versionOf (c : Cluster) : Option String := c.metadata.resourceVersion

def withVersion (c : Cluster) (v : String) : Cluster :=
  { c with metadata := { c.metadata with resourceVersion := some v } }

/-- The stored object with one part as it was sent: the status, or all else. -/
def merge : Part → Cluster → Cluster → Cluster
  | .main, stored, sent => { sent with status := stored.status }
  | .status, stored, sent => { stored with status := sent.status }

/-- The object as it is stored, as long as it is, and all its versions, the
latest first. -/
structure Record where
  current : Option Cluster
  versions : List Cluster

namespace Record

def start (c : Cluster) : Record := ⟨some c, [c]⟩

def Fresh (r : Record) (v : Option String) : Prop := ∀ c ∈ r.versions, versionOf c ≠ v

instance (r : Record) (v : Option String) : Decidable (r.Fresh v) :=
  inferInstanceAs (Decidable (∀ c ∈ r.versions, versionOf c ≠ v))

/-- An object that is to go goes once its last finalizer was taken away. -/
def releases (part : Part) (kept : Cluster) : Bool :=
  part = .main && kept.metadata.isDeleting && kept.metadata.finalizerList.isEmpty

def put (r : Record) (part : Part) (kept : Cluster) : Record :=
  ⟨if releases part kept then none else some kept, kept :: r.versions⟩

/-- The write that sends `sent` is accepted, and `kept` is what it leaves. -/
def Accepts (r : Record) (part : Part) (sent kept : Cluster) : Prop :=
  ∃ stored v, r.current = some stored ∧ versionOf sent = versionOf stored ∧ r.Fresh (some v) ∧
    kept = withVersion (merge part stored sent) v

inductive Deals : Record → Dealing → Record → Prop
  | read {r : Record} {c : Cluster} : c ∈ r.versions → Deals r (.load (.ok c)) r
  | unread {r : Record} {e : Error} : Deals r (.load (.error e)) r
  | accepted {r : Record} {part : Part} {sent kept : Cluster} : r.Accepts part sent kept →
    Deals r (.replace part sent (.ok kept)) (r.put part kept)
  /-- The write is accepted, but the writer does not get to know. -/
  | lost {r : Record} {part : Part} {sent kept : Cluster} {e : Error} : r.Accepts part sent kept →
    Deals r (.replace part sent (.error e)) (r.put part kept)
  | refused {r : Record} {part : Part} {sent : Cluster} {e : Error} :
    Deals r (.replace part sent (.error e)) r

/-- What other writers do, who change an object only as `edits` allows. They
leave the status alone, and a deletion once requested stays so. -/
inductive Drifts (edits : Cluster → Cluster → Prop) : Record → Record → Prop
  | edited {r : Record} {stored kept : Cluster} : r.current = some stored → edits stored kept →
    kept.status = stored.status → (stored.metadata.isDeleting → kept.metadata.isDeleting) →
    r.Fresh (versionOf kept) → Drifts edits r (r.put .main kept)
  | removed {r : Record} {stored : Cluster} : r.current = some stored →
    stored.metadata.finalizerList = [] → Drifts edits r { r with current := none }

/-- No two versions have the same name, and what is stored is the latest. -/
structure Sound (r : Record) : Prop where
  distinct : (r.versions.map versionOf).Nodup
  latest : ∀ c, r.current = some c → r.versions.head? = some c

theorem sound_start (c : Cluster) : (start c).Sound where
  distinct := List.nodup_singleton _
  latest _ h := h

theorem Sound.current_mem {r : Record} (h : r.Sound) {c : Cluster} (hc : r.current = some c) :
    c ∈ r.versions :=
  List.mem_of_mem_head? (h.latest c hc)

theorem Sound.eq_of_version {r : Record} (h : r.Sound) {a b : Cluster} (ha : a ∈ r.versions)
    (hb : b ∈ r.versions) (hv : versionOf a = versionOf b) : a = b :=
  List.inj_on_of_nodup_map h.distinct ha hb hv

theorem Sound.put {r : Record} (h : r.Sound) {kept : Cluster} (hf : r.Fresh (versionOf kept))
    (part : Part) : (r.put part kept).Sound where
  distinct := by
    refine List.nodup_cons.mpr ⟨fun hm => ?_, h.distinct⟩
    obtain ⟨c, hc, hv⟩ := List.mem_map.mp hm
    exact hf c hc hv
  latest c hc := by
    simp only [Record.put] at hc ⊢
    split at hc
    · cases hc
    · exact hc

theorem Accepts.fresh {r : Record} {part : Part} {sent kept : Cluster}
    (h : r.Accepts part sent kept) : r.Fresh (versionOf kept) := by
  obtain ⟨stored, v, -, -, hf, rfl⟩ := h
  exact hf

theorem Deals.sound {r r' : Record} {d : Dealing} (hd : r.Deals d r') (h : r.Sound) : r'.Sound := by
  cases hd with
  | read _ => exact h
  | unread => exact h
  | accepted ha => exact h.put ha.fresh _
  | lost ha => exact h.put ha.fresh _
  | refused => exact h

theorem Drifts.sound {edits : Cluster → Cluster → Prop} {r r' : Record} (hd : Drifts edits r r')
    (h : r.Sound) : r'.Sound := by
  cases hd with
  | edited _ _ _ _ hf => exact h.put hf _
  | removed _ _ => exact ⟨h.distinct, fun c hc => by cases hc⟩

theorem Deals.suffix {r r' : Record} {d : Dealing} (hd : r.Deals d r') :
    r.versions <:+ r'.versions := by
  cases hd <;> first | exact List.suffix_refl _ | exact List.suffix_cons _ _

theorem Deals.accepts_of_new {r r' : Record} {d : Dealing} {kept : Cluster} (hd : r.Deals d r')
    (hn : r'.versions = kept :: r.versions) :
    ∃ part sent a, d = .replace part sent a ∧ r.Accepts part sent kept := by
  have none_new : ∀ {l : List Cluster}, l ≠ kept :: l := fun h =>
    absurd (congrArg List.length h) (Nat.ne_of_lt (Nat.lt_succ_self _))
  cases hd with
  | accepted ha => exact ⟨_, _, _, rfl, List.head_eq_of_cons_eq hn ▸ ha⟩
  | lost ha => exact ⟨_, _, _, rfl, List.head_eq_of_cons_eq hn ▸ ha⟩
  | read _ => exact absurd hn none_new
  | unread => exact absurd hn none_new
  | refused => exact absurd hn none_new

theorem Drifts.suffix {edits : Cluster → Cluster → Prop} {r r' : Record} (hd : Drifts edits r r') :
    r.versions <:+ r'.versions := by
  cases hd with
  | edited => exact List.suffix_cons _ _
  | removed => exact List.suffix_refl _

end Record

/-! ## What a dealing shows of the record -/

/-- A dealing that there can have been: what was read is a version, and what
was kept is one that came from the version that the writer had seen. -/
def Dealing.FitsIn (versions : List Cluster) : Dealing → Prop
  | .load (.ok c) => c ∈ versions
  | .replace part sent (.ok kept) =>
    kept ∈ versions ∧ ∃ stored ∈ versions, versionOf sent = versionOf stored ∧
      ∃ v, kept = withVersion (merge part stored sent) v
  | _ => True

theorem Dealing.FitsIn.mono {old new : List Cluster} {d : Dealing} (h : d.FitsIn old)
    (hs : old ⊆ new) : d.FitsIn new := by
  match d, h with
  | .load (.ok _), h => exact hs h
  | .load (.error _), _ => trivial
  | .replace _ _ (.ok _), ⟨hk, stored, hm, hv, hw⟩ => exact ⟨hs hk, stored, hs hm, hv, hw⟩
  | .replace _ _ (.error _), _ => trivial

theorem Record.Deals.fitsIn {r r' : Record} {d : Dealing} (hd : r.Deals d r') (h : r.Sound) :
    d.FitsIn r'.versions := by
  cases hd with
  | read hc => exact hc
  | accepted ha =>
    obtain ⟨stored, v, hs, hv, -, rfl⟩ := ha
    exact ⟨by simp [Record.put], stored, by simp [Record.put, h.current_mem hs], hv, v, rfl⟩
  | unread => trivial
  | lost _ => trivial
  | refused => trivial

/-! ## Environments with a record -/

section
variable {Q : Type} {A : Q → Type} {α σ : Type}

/-- An environment whose store is the record of one object. -/
structure Keeps (E : Environment A α σ) (dealing : Exchange A → Option Dealing)
    (record : σ → Record) (edits : Cluster → Cluster → Prop) : Prop where
  deals {s s' : σ} {x : Exchange A} {d : Dealing} : E.answers s x s' → dealing x = some d →
    (record s).Deals d (record s')
  apart {s s' : σ} {x : Exchange A} : E.answers s x s' → dealing x = none → record s' = record s
  drifts {s s' : σ} : E.drifts s s' → Record.Drifts edits (record s) (record s')

variable {E : Environment A α σ} {dealing : Exchange A → Option Dealing} {record : σ → Record}
  {edits : Cluster → Cluster → Prop}

theorem Keeps.step_cases (hE : Keeps E dealing record edits) {w w' : Scene A α σ}
    (h : E.Step w w') :
    record w'.state = record w.state ∨
      (∃ i x d, E.Turn w i x w' ∧ dealing x = some d ∧ (record w.state).Deals d (record w'.state)) ∨
      Record.Drifts edits (record w.state) (record w'.state) := by
  cases h with
  | start _ => exact .inl rfl
  | @turn _ i x ht =>
    have ha := ht.answers
    cases hd : dealing x with
    | none => exact .inl (hE.apart ha hd)
    | some d => exact .inr (.inl ⟨i, x, d, ht, hd, hE.deals ha hd⟩)
  | drift hd => exact .inr (.inr (hE.drifts hd))

/-- A step makes no version of the object, or one: in a turn, or when another
writer edits what is stored. -/
theorem Keeps.version_cases (hE : Keeps E dealing record edits) {w w' : Scene A α σ}
    (h : E.Step w w') :
    (record w'.state).versions = (record w.state).versions ∨
      ∃ stored kept, (record w.state).current = some stored ∧
        (record w'.state).versions = kept :: (record w.state).versions ∧
        ((∃ i x, E.Turn w i x w') ∨ kept.status = stored.status) := by
  rcases hE.step_cases h with h₁ | ⟨i, x, d, ht, -, h₁⟩ | h₁
  · exact .inl (congrArg Record.versions h₁)
  · have made : ∀ {part sent kept}, (record w.state).Accepts part sent kept →
        record w'.state = (record w.state).put part kept → ∃ stored kept,
          (record w.state).current = some stored ∧
          (record w'.state).versions = kept :: (record w.state).versions ∧
          ((∃ i x, E.Turn w i x w') ∨ kept.status = stored.status) := by
      rintro part sent kept ⟨stored, v, hc, -, -, -⟩ hk
      exact ⟨stored, kept, hc, congrArg Record.versions hk, .inl ⟨i, x, ht⟩⟩
    generalize hr : record w'.state = r' at h₁ made
    cases h₁ with
    | read _ => exact .inl rfl
    | unread => exact .inl rfl
    | accepted ha => exact .inr (made ha rfl)
    | lost ha => exact .inr (made ha rfl)
    | refused => exact .inl rfl
  · generalize record w'.state = r' at h₁
    cases h₁ with
    | edited hc _ hk _ _ => exact .inr ⟨_, _, hc, rfl, .inr hk⟩
    | removed _ _ => exact .inl rfl

theorem Keeps.accepts_of_new (hE : Keeps E dealing record edits) {w w' : Scene A α σ} {i : Nat}
    {x : Exchange A} (ht : E.Turn w i x w') {kept : Cluster}
    (hn : (record w'.state).versions = kept :: (record w.state).versions) :
    ∃ part sent a, dealing x = some (.replace part sent a) ∧
      (record w.state).Accepts part sent kept := by
  cases hd : dealing x with
  | none =>
    rw [hE.apart ht.answers hd] at hn
    exact absurd (congrArg List.length hn) (Nat.ne_of_lt (Nat.lt_succ_self _))
  | some d =>
    obtain ⟨part, sent, a, rfl, ha⟩ := (hE.deals ht.answers hd).accepts_of_new hn
    exact ⟨part, sent, a, rfl, ha⟩

theorem Keeps.suffix (hE : Keeps E dealing record edits) {w w' : Scene A α σ} (h : E.Step w w') :
    (record w.state).versions <:+ (record w'.state).versions := by
  rcases hE.step_cases h with h | ⟨_, _, _, _, _, h⟩ | h
  · exact h ▸ List.suffix_refl _
  · exact h.suffix
  · exact h.suffix

theorem Keeps.runs_suffix (hE : Keeps E dealing record edits) {w w' : Scene A α σ}
    (h : E.Runs w w') : (record w.state).versions <:+ (record w'.state).versions := by
  induction h with
  | refl => exact List.suffix_refl _
  | tail _ hs ih => exact ih.trans (hE.suffix hs)

theorem Keeps.sound (hE : Keeps E dealing record edits) {s : σ} (h₀ : (record s).Sound)
    {w : Scene A α σ} (h : E.Runs (.start s) w) : (record w.state).Sound := by
  induction h with
  | refl => exact h₀
  | tail _ h ih =>
    rcases hE.step_cases h with h | ⟨_, _, _, _, _, h⟩ | h
    · rw [h]; exact ih
    · exact h.sound ih
    · exact h.sound ih

/-- What relates each new version to what was stored relates each version to the
one before it. -/
theorem Keeps.chain (hE : Keeps E dealing record edits) {R : Cluster → Cluster → Prop} {s : σ}
    {c : Cluster} (h₀ : record s = .start c)
    (hR : ∀ {w w' stored kept}, E.Runs (.start s) w → E.Step w w' →
      (record w.state).current = some stored →
      (record w'.state).versions = kept :: (record w.state).versions →
      (∃ i x, E.Turn w i x w') ∨ kept.status = stored.status → R kept stored)
    {w : Scene A α σ} (h : E.Runs (.start s) w) : (record w.state).versions.IsChain R := by
  have hs : (record s).Sound := h₀ ▸ Record.sound_start c
  refine Environment.Runs.invariant (P := fun w => (record w.state).versions.IsChain R) ?_ ?_ h
  · simp only [Scene.start, h₀, Record.start]
    exact List.isChain_singleton _
  · intro w w' hw ih hstep
    rcases hE.version_cases hstep with hn | ⟨stored, kept, hc, hn, hk⟩
    · rw [hn]
      exact ih
    · rw [hn]
      refine List.isChain_cons.mpr ⟨fun older ho => ?_, ih⟩
      obtain rfl : stored = older :=
        Option.some.inj (((hE.sound hs hw).latest _ hc).symm.trans ho)
      exact hR hw hstep hc hn hk

theorem Keeps.fitsIn (hE : Keeps E dealing record edits) {s : σ} (h₀ : (record s).Sound)
    {w : Scene A α σ} (h : E.Runs (.start s) w) {e : Errand A α} (he : e ∈ w.errands)
    {x : Exchange A} (hx : x ∈ e.told) {d : Dealing} (hd : dealing x = some d) :
    d.FitsIn (record w.state).versions := by
  induction h generalizing e with
  | refl => cases he
  | @tail w w' hw h ih =>
    have hs := (hE.suffix h).subset
    cases h with
    | start _ =>
      rcases List.mem_append.mp he with he | he
      · exact (ih he hx).mono hs
      · obtain rfl := List.mem_singleton.mp he
        cases hx
    | turn ht =>
      rcases ht.mem_after he with he | ⟨e₀, h₀', rfl, -⟩
      · exact (ih he hx).mono hs
      · rcases List.mem_append.mp hx with hx | hx
        · exact (ih h₀' hx).mono hs
        · obtain rfl := List.mem_singleton.mp hx
          exact (hE.deals ht.answers hd).fitsIn (hE.sound h₀ hw)
    | drift _ => exact (ih he hx).mono hs

variable (E dealing record) in
/-- The same, but what is read is what is stored at the time. -/
def upToDate : Environment A α σ where
  starts := E.starts
  answers s x s' := E.answers s x s' ∧
    ∀ c, dealing x = some (.load (.ok c)) → (record s).current = some c
  drifts := E.drifts

theorem runs_of_upToDate {w w' : Scene A α σ} (h : (upToDate E dealing record).Runs w w') :
    E.Runs w w' := by
  refine Environment.Runs.mono ?_ ?_ ?_ h
  · exact fun hp => hp
  · exact fun ha => ha.1
  · exact fun hd => hd

end

section
variable {Q : Type} {A : Q → Type} {α τ : Type}

def surroundings (starts : Program A α → Prop) (dealing : Exchange A → Option Dealing)
    (edits : Cluster → Cluster → Prop) (tells : τ → Exchange A → τ → Prop) :
    Environment A α (Record × τ) where
  starts := starts
  answers s x s' :=
    (match dealing x with
      | some d => s.1.Deals d s'.1
      | none => s'.1 = s.1) ∧ tells s.2 x s'.2
  drifts s s' := Record.Drifts edits s.1 s'.1 ∧ s'.2 = s.2

variable {starts : Program A α → Prop} {dealing : Exchange A → Option Dealing}
  {edits : Cluster → Cluster → Prop} {tells : τ → Exchange A → τ → Prop}

theorem deals_answers {r r' : Record} {a a' : τ} {x : Exchange A} {d : Dealing}
    (hx : dealing x = some d) (h : r.Deals d r') (ht : tells a x a') :
    (surroundings starts dealing edits tells).answers (r, a) x (r', a') := by
  refine ⟨?_, ht⟩
  simp only [hx]
  exact h

theorem apart_answers {r : Record} {a a' : τ} {x : Exchange A} (hx : dealing x = none)
    (ht : tells a x a') : (surroundings starts dealing edits tells).answers (r, a) x (r, a') := by
  refine ⟨?_, ht⟩
  simp only [hx]

theorem keeps_surroundings :
    Keeps (surroundings starts dealing edits tells) dealing Prod.fst edits where
  deals ha hd := by simpa only [surroundings, hd] using ha.1
  apart ha hd := by simpa only [surroundings, hd] using ha.1
  drifts hd := hd.1

end

end ClusterOperator.Store
