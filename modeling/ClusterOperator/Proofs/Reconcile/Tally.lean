import Mathlib.Logic.Function.Basic
import ClusterOperator.Proofs.Metrics
import ClusterOperator.Proofs.Reconcile.Outcome

/-!
# Metrics of many passes

Passes over any objects, one after another, while other writers come between. The counts of
phases are tied to a log of the status writes that the store answered as accepted, all other
counts to what came of the passes.
-/

namespace ClusterOperator.Reconcile

open Resource (Cluster ObjectKey Metadata)
open Kubernetes (Part)
open Provider (LoginState)
open Program
open Store (Dealing Record merge versionOf withVersion)

/-- The objects by key, the metrics, and for each status write that a pass knows to be
accepted the object before and after it. -/
structure World where
  records : ObjectKey → Record
  metrics : Metrics
  written : List (Cluster × Cluster)

variable {w w' v v' : World} {x : Exchange Answer} {t u : List (Exchange Answer)}
  {key : ObjectKey} {c c' sent kept : Cluster} {part : Part} {d : Dealing} {r : Record}

/-- What an exchange is to the store, and about which object. -/
def addressed : Exchange Answer → Option (ObjectKey × Dealing)
  | ⟨.load key, r⟩ => some (key, .load r)
  | ⟨.replaceMetadata c, r⟩ => some (c.metadata.key, .replace .main c r)
  | ⟨.replaceStatus c, r⟩ => some (c.metadata.key, .replace .status c r)
  | _ => none

theorem addressed_replace {r : Except Store.Error Cluster}
    (h : addressed x = some (key, .replace part sent r)) : sent.metadata.key = key := by
  obtain ⟨q, a⟩ := x
  cases q <;> cases h <;> rfl

theorem addressed_aside (h : Aside x.question) : addressed x = none := by
  obtain ⟨q, a⟩ := x
  cases q <;> first | rfl | exact absurd h id

namespace World

/-! ## Steps -/

def store (w : World) (key : ObjectKey) (r : Record) : World :=
  { w with records := Function.update w.records key r }

def note (w : World) (n : Note) (seconds : Float) (now : Int) : World :=
  { w with metrics := w.metrics.take n seconds now }

/-- What a dealing adds to the log. A write whose answer gets lost is stored, but no pass
knows of it. -/
def writes (r : Record) : Dealing → List (Cluster × Cluster)
  | .replace .status _ (.ok kept) => r.current.toList.map fun stored => (stored, kept)
  | _ => []

inductive Tells : World → Exchange Answer → World → Prop
  | dealt {w : World} {x : Exchange Answer} {key : ObjectKey} {d : Dealing} {r : Record} :
    addressed x = some (key, d) → (w.records key).Deals d r →
    Tells w x { w.store key r with written := w.written ++ writes (w.records key) d }
  | noted {w : World} {n : Note} {seconds : Float} {now : Int} :
    Tells w ⟨.note n, ()⟩ (w.note n seconds now)
  | aside {w : World} {x : Exchange Answer} : Aside x.question ∨ x.question = .loginState →
    Tells w x w

/-- Others write what they like, the status too, but under a version that there never was. -/
inductive Drifts : World → World → Prop
  | put {w : World} {key : ObjectKey} {c : Cluster} : c.metadata.key = key →
    (w.records key).Fresh (versionOf c) →
    Drifts w (w.store key ⟨some c, c :: (w.records key).versions⟩)
  | removed {w : World} {key : ObjectKey} :
    Drifts w (w.store key { w.records key with current := none })

/-- A pass is told `t`, and others come between. -/
inductive Goes : World → List (Exchange Answer) → World → Prop
  | refl {w : World} : Goes w [] w
  | tells {w w' w'' : World} {x : Exchange Answer} {t : List (Exchange Answer)} :
    Tells w x w' → Goes w' t w'' → Goes w (x :: t) w''
  | drifts {w w' w'' : World} {t : List (Exchange Answer)} :
    Drifts w w' → Goes w' t w'' → Goes w t w''

theorem Goes.cons_inv (h : Goes w (x :: t) w') :
    ∃ v v', Goes w [] v ∧ Tells v x v' ∧ Goes v' t w' := by
  generalize hl : x :: t = l at h
  induction h with
  | refl => cases hl
  | tells hx ht _ =>
    cases hl
    exact ⟨_, _, .refl, hx, ht⟩
  | drifts hd _ ih =>
    obtain ⟨v, v', hv, hx, ht⟩ := ih hl
    exact ⟨v, v', .drifts hd hv, hx, ht⟩

theorem Goes.append_inv (h : Goes w (t ++ u) w') : ∃ v, Goes w t v ∧ Goes v u w' := by
  generalize hl : t ++ u = l at h
  induction h generalizing t with
  | refl =>
    obtain ⟨rfl, rfl⟩ := List.append_eq_nil_iff.mp hl
    exact ⟨_, .refl, .refl⟩
  | tells hx ht ih =>
    cases t with
    | nil =>
      rw [List.nil_append] at hl
      exact ⟨_, .refl, hl ▸ .tells hx ht⟩
    | cons y t =>
      obtain ⟨rfl, ht'⟩ := List.cons_eq_cons.mp hl
      obtain ⟨v, hv, hu⟩ := ih ht'
      exact ⟨v, .tells hx hv, hu⟩
  | drifts hd _ ih =>
    obtain ⟨v, hv, hu⟩ := ih hl
    exact ⟨v, .drifts hd hv, hu⟩

theorem Goes.idle (h : Goes w [] w') : w'.metrics = w.metrics ∧ w'.written = w.written := by
  generalize hl : [] = l at h
  induction h with
  | refl => exact ⟨rfl, rfl⟩
  | tells _ _ _ => cases hl
  | drifts hd _ ih =>
    obtain ⟨hm, hw⟩ := ih hl
    cases hd with
    | put _ _ => exact ⟨hm, hw⟩
    | removed => exact ⟨hm, hw⟩

/-! ## Records -/

/-- The versions of each object have its key, and names of their own. -/
structure Sound (w : World) : Prop where
  records : ∀ key, (w.records key).Sound
  keys : ∀ key, ∀ c ∈ (w.records key).versions, c.metadata.key = key

theorem Sound.store (h : w.Sound) (hr : r.Sound) (hk : ∀ c ∈ r.versions, c.metadata.key = key) :
    (w.store key r).Sound := by
  constructor
  · intro key'
    by_cases he : key' = key
    · subst he
      simpa [World.store] using hr
    · simpa [World.store, he] using h.records key'
  · intro key'
    by_cases he : key' = key
    · subst he
      simpa [World.store] using hk
    · simpa [World.store, he] using h.keys key'

/-- What is kept of a write has the key that the write was sent to. -/
theorem Sound.kept_key (h : w.Sound) (ha : (w.records key).Accepts part sent kept)
    (hs : sent.metadata.key = key) : kept.metadata.key = key := by
  obtain ⟨stored, n, hc, -, -, rfl⟩ := ha
  cases part with
  | main => exact hs
  | status => exact h.keys key stored ((h.records key).current_mem hc)

theorem Tells.sound (ht : Tells w x w') (h : w.Sound) : w'.Sound := by
  cases ht with
  | noted => exact ⟨h.records, h.keys⟩
  | aside _ => exact h
  | @dealt _ key d r hx hd =>
    have hk : ∀ {part sent kept a}, d = .replace part sent a →
        (w.records key).Accepts part sent kept →
        ∀ c ∈ kept :: (w.records key).versions, c.metadata.key = key := by
      rintro part sent kept a rfl ha
      exact List.forall_mem_cons.mpr ⟨h.kept_key ha (addressed_replace hx), h.keys key⟩
    have hs := hd.sound (h.records key)
    have : (w.store key r).Sound := by
      apply h.store hs
      cases hd with
      | read _ => exact h.keys key
      | unread => exact h.keys key
      | refused => exact h.keys key
      | accepted ha => exact hk rfl ha
      | lost ha => exact hk rfl ha
    exact ⟨this.records, this.keys⟩

theorem Drifts.sound (hd : Drifts w w') (h : w.Sound) : w'.Sound := by
  cases hd with
  | @put key c hk hf =>
    apply h.store
    · exact (h.records key).put hf .status
    · exact List.forall_mem_cons.mpr ⟨hk, h.keys key⟩
  | @removed key =>
    apply h.store
    · exact ⟨(h.records key).distinct, fun c hc => by cases hc⟩
    · exact h.keys key

theorem Goes.sound (hg : Goes w t w') (h : w.Sound) : w'.Sound := by
  induction hg with
  | refl => exact h
  | tells hx _ ih => exact ih (hx.sound h)
  | drifts hd _ ih => exact ih (hd.sound h)

/-- Versions are never forgotten. -/
def Grows (w w' : World) : Prop := ∀ key, (w.records key).versions ⊆ (w'.records key).versions

theorem grows_store (h : (w.records key).versions ⊆ r.versions) : w.Grows (w.store key r) := by
  intro key'
  by_cases he : key' = key
  · subst he
    simpa [store] using h
  · simp [store, he]

theorem Tells.grows (ht : Tells w x w') : w.Grows w' := by
  cases ht with
  | noted => exact fun _ => List.Subset.refl _
  | aside _ => exact fun _ => List.Subset.refl _
  | dealt _ hd => exact fun k => grows_store hd.suffix.subset k

theorem Drifts.grows (hd : Drifts w w') : w.Grows w' := by
  cases hd with
  | put _ _ => exact grows_store (List.subset_cons_self _ _)
  | removed => exact grows_store (List.Subset.refl _)

theorem Goes.grows (hg : Goes w t w') : w.Grows w' := by
  induction hg with
  | refl => exact fun _ => List.Subset.refl _
  | tells hx _ ih => exact fun k => List.Subset.trans (hx.grows k) (ih k)
  | drifts hd _ ih => exact fun k => List.Subset.trans (hd.grows k) (ih k)

/-- The object is one that a pass can have loaded. -/
structure Has (w : World) (c : Cluster) : Prop where
  sound : w.Sound
  mem : c ∈ (w.records c.metadata.key).versions

theorem Has.tells (h : w.Has c) (ht : Tells w x w') : w'.Has c :=
  ⟨ht.sound h.sound, ht.grows _ h.mem⟩

theorem Has.goes (h : w.Has c) (hg : Goes w t w') : w'.Has c :=
  ⟨hg.sound h.sound, hg.grows _ h.mem⟩

/-! ## Transitions -/

/-- Whether a write changed the phase from one text to another, as they are shown. -/
def moves (source target : String) (x : Cluster × Cluster) : Bool :=
  decide (source ≠ target ∧ Phase.shown x.1.phaseText = source ∧
    Phase.shown x.2.phaseText = target)

def Settled (w : World) : Prop :=
  ∀ a b, w.metrics.transitions.count (a, b) = w.written.countP (moves a b)

theorem Tells.of_aside (ht : Tells w x w') (hx : Aside x.question ∨ x.question = .loginState) :
    w' = w := by
  cases ht with
  | aside _ => rfl
  | noted => rcases hx with hx | hx <;> cases hx
  | dealt ha _ =>
    obtain ⟨q, a⟩ := x
    rcases hx with hx | rfl
    · cases (addressed_aside hx).symm.trans ha
    · cases ha

theorem Tells.of_note {n : Note} (ht : Tells w ⟨.note n, ()⟩ w') :
    ∃ seconds now, w' = w.note n seconds now := by
  cases ht with
  | noted => exact ⟨_, _, rfl⟩
  | dealt ha _ => cases ha
  | aside hx => rcases hx with hx | hx <;> cases hx

theorem Tells.of_addressed (ht : Tells w x w') (ha : addressed x = some (key, d)) :
    ∃ r, (w.records key).Deals d r ∧
      w' = { w.store key r with written := w.written ++ writes (w.records key) d } := by
  cases ht with
  | noted => cases ha
  | aside hx =>
    obtain ⟨q, a⟩ := x
    rcases hx with hx | rfl
    · cases (addressed_aside hx).symm.trans ha
    · cases ha
  | dealt ha' hd =>
    cases ha'.symm.trans ha
    exact ⟨_, hd, rfl⟩

/-- A write that fails as far as its pass is told leaves metrics and log. -/
theorem Tells.of_error {e : Store.Error} (ht : Tells w x w')
    (ha : addressed x = some (key, .replace part sent (.error e))) :
    w'.metrics = w.metrics ∧ w'.written = w.written := by
  obtain ⟨r, -, rfl⟩ := ht.of_addressed ha
  cases part with
  | main => exact ⟨rfl, List.append_nil _⟩
  | status => exact ⟨rfl, List.append_nil _⟩

/-- The object that a pass goes by is the one that its accepted write replaces. -/
theorem Tells.of_accepted (ht : Tells w x w') (h : w.Has c) (hv : versionOf sent = versionOf c)
    (hk : sent.metadata.key = c.metadata.key)
    (ha : addressed x = some (sent.metadata.key, .replace part sent (.ok kept))) :
    kept.status = (merge part c sent).status ∧ w'.Has kept ∧ w'.metrics = w.metrics ∧
      w'.written = w.written ++ if part = .status then [(c, kept)] else [] := by
  have hs := ht.sound h.sound
  obtain ⟨r, hd, rfl⟩ := ht.of_addressed ha
  rw [hk] at hd
  cases hd with
  | accepted hw =>
    have hkey : kept.metadata.key = c.metadata.key := h.sound.kept_key hw hk
    have hmem : kept ∈ ((w.records c.metadata.key).put part kept).versions := List.mem_cons_self
    obtain ⟨stored, n, hc, hv', -, hn⟩ := hw
    have hr := h.sound.records c.metadata.key
    obtain rfl : c = stored := hr.eq_of_version h.mem (hr.current_mem hc) (hv ▸ hv')
    refine ⟨hn ▸ rfl, ⟨hs, ?_⟩, rfl, ?_⟩
    · rw [hkey, hk]
      simpa [store] using hmem
    · rw [hk]
      cases part with
      | main => rfl
      | status => simp [writes, hc]

theorem phaseText_of_status (h : kept.status = c.status) : kept.phaseText = c.phaseText := by
  rw [Cluster.phaseText, Cluster.phaseText, h]

theorem Settled.of_eq (h : w.Settled) (hm : w'.metrics = w.metrics) (hl : w'.written = w.written) :
    w'.Settled := by
  unfold Settled
  rw [hm, hl]
  exact h

theorem Settled.of_stay (h : w.Settled) (hp : Phase.shown c.phaseText = Phase.shown kept.phaseText)
    (hm : w'.metrics = w.metrics) (hl : w'.written = w.written ++ [(c, kept)]) : w'.Settled := by
  intro a b
  have hn : moves a b (c, kept) = false := by
    apply decide_eq_false
    rintro ⟨hne, rfl, rfl⟩
    exact hne hp
  rw [hm, hl, h a b, List.countP_append, List.countP_singleton, hn]
  rfl

theorem Settled.of_move (h : w.Settled) (hp : Phase.shown c.phaseText ≠ Phase.shown kept.phaseText)
    (hm : w'.metrics = w.metrics) (hl : w'.written = w.written ++ [(c, kept)]) (seconds : Float)
    (now : Int) : (w'.note (.moved (Phase.shown c.phaseText) (Phase.shown kept.phaseText))
      seconds now).Settled := by
  intro a b
  have hn : moves a b (c, kept) = true ↔
      (Phase.shown c.phaseText, Phase.shown kept.phaseText) = (a, b) := by
    unfold moves
    rw [decide_eq_true_iff, Prod.mk.injEq]
    constructor
    · rintro ⟨-, rfl, rfl⟩
      exact ⟨rfl, rfl⟩
    · rintro ⟨rfl, rfl⟩
      exact ⟨hp, rfl, rfl⟩
  simp only [note, hm, hl, Metrics.take, Metrics.count_moved, h a b, List.countP_append,
    List.countP_singleton, hn]

/-- No metrics but the transitions changed. -/
def SameElse (w w' : World) : Prop :=
  w'.metrics = { w.metrics with transitions := w'.metrics.transitions }

theorem SameElse.of_eq (h : w'.metrics = w.metrics) : w.SameElse w' := by
  unfold SameElse
  rw [h]

theorem SameElse.trans (h : w.SameElse v) (h' : v.SameElse w') : w.SameElse w' := by
  unfold SameElse at *
  rw [h', h]

theorem SameElse.of_move {a b : String} {seconds : Float} {now : Int} :
    w.SameElse (w.note (.moved a b) seconds now) := rfl

/-- Others come between before an exchange, and change neither metrics nor log. -/
theorem Settled.until (hw : w.Settled) (hc : w.Has c) (hg : Goes w (x :: t) w') :
    ∃ v v', v.Settled ∧ v.Has c ∧ w.SameElse v ∧ Tells v x v' ∧ Goes v' t w' := by
  obtain ⟨v, v', hv, hx, ht⟩ := hg.cons_inv
  obtain ⟨hm, hl⟩ := hv.idle
  exact ⟨v, v', hw.of_eq hm hl, hc.goes hv, .of_eq hm, hx, ht⟩

/-- What a pass is told of the object that it loaded keeps the count of transitions in step
with the log. -/
theorem Settled.accounts (hw : w.Settled) (h : Accounts c t c') (hc : w.Has c)
    (hg : Goes w t w') : w'.Settled ∧ w.SameElse w' := by
  induction h generalizing w with
  | done =>
    obtain ⟨hm, hl⟩ := hg.idle
    exact ⟨hw.of_eq hm hl, .of_eq hm⟩
  | aside hx _ ih =>
    obtain ⟨v, v', hv, hcv, hs, ht, hg'⟩ := hw.until hc hg
    obtain rfl := ht.of_aside (.inl hx)
    obtain ⟨hw', hs'⟩ := ih hv hcv hg'
    exact ⟨hw', hs.trans hs'⟩
  | unmerged _ ih =>
    obtain ⟨v, v', hv, hcv, hs, ht, hg'⟩ := hw.until hc hg
    obtain ⟨hm, hl⟩ := ht.of_error rfl
    obtain ⟨hw', hs'⟩ := ih (hv.of_eq hm hl) (hcv.tells ht) hg'
    exact ⟨hw', hs.trans ((SameElse.of_eq hm).trans hs')⟩
  | unwritten _ ih =>
    obtain ⟨v, v', hv, hcv, hs, ht, hg'⟩ := hw.until hc hg
    obtain ⟨hm, hl⟩ := ht.of_error rfl
    obtain ⟨hw', hs'⟩ := ih (hv.of_eq hm hl) (hcv.tells ht) hg'
    exact ⟨hw', hs.trans ((SameElse.of_eq hm).trans hs')⟩
  | merged hsv hsk _ ih =>
    obtain ⟨v, v', hv, hcv, hs, ht, hg'⟩ := hw.until hc hg
    obtain ⟨hst, hck, hm, hl⟩ := ht.of_accepted hcv hsv hsk rfl
    rw [if_neg (by decide), List.append_nil] at hl
    obtain ⟨hw', hs'⟩ := ih hst (hv.of_eq hm hl) hck hg'
    exact ⟨hw', hs.trans ((SameElse.of_eq hm).trans hs')⟩
  | @stayed c c' sent kept t hsent hp _ ih =>
    obtain ⟨v, v', hv, hcv, hs, ht, hg'⟩ := hw.until hc hg
    obtain ⟨hst, hck, hm, hl⟩ :=
      ht.of_accepted hcv (congrArg Metadata.resourceVersion hsent) (congrArg Metadata.key hsent) rfl
    have hp' : kept.phaseText = sent.phaseText := phaseText_of_status hst
    rw [← hp'] at hp
    obtain ⟨hw', hs'⟩ := ih hst (hv.of_stay hp hm hl) hck hg'
    exact ⟨hw', hs.trans ((SameElse.of_eq hm).trans hs')⟩
  | @moved c c' sent kept t hsent hp _ ih =>
    obtain ⟨v, v', hv, hcv, hs, ht, hg'⟩ := hw.until hc hg
    obtain ⟨hst, hck, hm, hl⟩ :=
      ht.of_accepted hcv (congrArg Metadata.resourceVersion hsent) (congrArg Metadata.key hsent) rfl
    have hp' : kept.phaseText = sent.phaseText := phaseText_of_status hst
    rw [← hp'] at hp hg'
    -- until the note the log is one ahead of the count
    obtain ⟨u, u', hu, hx, hg''⟩ := hg'.cons_inv
    obtain ⟨hmu, hlu⟩ := hu.idle
    have hck' := (hck.goes hu).tells hx
    obtain ⟨seconds, now, rfl⟩ := hx.of_note
    have hv' := hv.of_move hp (hmu.trans hm) (hlu.trans hl) seconds now
    obtain ⟨hw', hs'⟩ := ih hst hv' hck' hg''
    exact ⟨hw', hs.trans ((SameElse.of_eq (hmu.trans hm)).trans (SameElse.of_move.trans hs'))⟩

/-! ## From load to bookkeeping -/

theorem Tells.of_load {a : Except Store.Error Cluster} (ht : Tells w ⟨.load key, a⟩ w') :
    w'.metrics = w.metrics ∧ w'.written = w.written := by
  obtain ⟨r, -, rfl⟩ := ht.of_addressed rfl
  exact ⟨rfl, List.append_nil _⟩

theorem Tells.has (ht : Tells w ⟨.load key, .ok c⟩ w') (h : w.Sound) : w'.Has c := by
  have hs := ht.sound h
  have hg := ht.grows key
  obtain ⟨r, hd, rfl⟩ := ht.of_addressed rfl
  cases hd with
  | read hc =>
    refine ⟨hs, ?_⟩
    rw [h.keys key c hc]
    exact hg hc

theorem Settled.booked (hw : w.Settled) (hs : w.Sound) (hb : Booked key t) (hg : Goes w t w') :
    w'.Settled ∧ w.SameElse w' := by
  cases hb with
  | unread =>
    obtain ⟨v, v', hv, ht, hg'⟩ := hg.cons_inv
    obtain ⟨hm, hl⟩ := hv.idle
    obtain ⟨hm₁, hl₁⟩ := ht.of_load
    obtain ⟨hm₂, hl₂⟩ := hg'.idle
    have he : w'.metrics = w.metrics := hm₂.trans (hm₁.trans hm)
    exact ⟨hw.of_eq he (hl₂.trans (hl₁.trans hl)), .of_eq he⟩
  | loaded ha =>
    obtain ⟨v, v', hv, ht, hg'⟩ := hg.cons_inv
    obtain ⟨hm, hl⟩ := hv.idle
    obtain ⟨hm₁, hl₁⟩ := ht.of_load
    have hc := ht.has (hv.sound hs)
    have he : v'.metrics = w.metrics := hm₁.trans hm
    obtain ⟨hw', hs'⟩ := (hw.of_eq he (hl₁.trans hl)).accounts ha hc hg'
    exact ⟨hw', (SameElse.of_eq he).trans hs'⟩

theorem Goes.note_inv {n : Note} (hg : Goes w (⟨.note n, ()⟩ :: t) w') :
    ∃ v seconds now, v.metrics = w.metrics.take n seconds now ∧ v.written = w.written ∧
      Goes v t w' := by
  obtain ⟨v, v', hv, ht, hg'⟩ := hg.cons_inv
  obtain ⟨hm, hl⟩ := hv.idle
  obtain ⟨seconds, now, rfl⟩ := ht.of_note
  exact ⟨v.note n seconds now, seconds, now, congrArg (Metrics.take · n seconds now) hm, hl, hg'⟩

theorem Goes.login_inv {state : LoginState}
    (hg : Goes w (⟨.loginState, state⟩ :: ⟨.note (.login state), ()⟩ :: t) w') :
    ∃ v, v.metrics = w.metrics.showLogin state ∧ v.written = w.written ∧ Goes v t w' := by
  obtain ⟨v, v', hv, ht, hg'⟩ := hg.cons_inv
  obtain ⟨hm, hl⟩ := hv.idle
  obtain rfl := ht.of_aside (.inr rfl)
  obtain ⟨u, _, _, hmu, hlu, hg''⟩ := hg'.note_inv
  exact ⟨u, hmu.trans (congrArg (Metrics.showLogin · state) hm), hlu.trans hl, hg''⟩

end World

/-! ## Calls -/

/-- A pass over the object with a key, what it was told, and what came of it. -/
structure Call where
  key : ObjectKey
  told : List (Exchange Answer)
  result : Except Error Action

namespace Call

/-- Whether the call succeeded, and not for losing a race. -/
def succeeded (c : Call) : Bool := c.result.isOk && !lostRace c.told

def failedAs (c : Call) (kind : String) : Bool :=
  match c.result with
  | .ok _ => false
  | .error e => e.kind = kind

end Call

namespace World

/-- What the note at the end of a call adds. -/
structure Books (w : World) (c : Call) (w' : World) : Prop where
  written : w'.written = w.written
  transitions : w'.metrics.transitions = w.metrics.transitions
  login : w'.metrics.login = w.metrics.login
  reconciliations (key : ObjectKey) : w'.metrics.reconciliations.count key =
    w.metrics.reconciliations.count key + if c.key = key && c.succeeded then 1 else 0
  errors (key : ObjectKey) (kind : String) : w'.metrics.errors.count (key, kind) =
    w.metrics.errors.count (key, kind) + if c.key = key && c.failedAs kind then 1 else 0

theorem books_of_settles {told : List (Exchange Answer)} {result : Except Error Action}
    (h : Settles key t u result) (hl : lostRace told = lostRace t) (hg : Goes w u w') :
    w.Books ⟨key, told, result⟩ w' := by
  cases h with
  | succeeded ht =>
    obtain ⟨v, seconds, now, hm, hw, hg'⟩ := hg.note_inv
    obtain ⟨hm', hw'⟩ := hg'.idle
    rw [hm] at hm'
    refine ⟨hw'.trans hw, by rw [hm']; rfl, by rw [hm']; rfl, fun k => ?_, fun k kind => ?_⟩
    · rw [hm', Metrics.take, Metrics.count_succeeded]
      simp [Call.succeeded, Except.isOk, Except.toBool, hl, ht]
    · rw [hm']
      simp [Metrics.take, Metrics.succeeded, Call.failedAs]
  | raced ht =>
    obtain ⟨hm, hw⟩ := hg.idle
    refine ⟨hw, by rw [hm], by rw [hm], fun k => ?_, fun k kind => ?_⟩
    · rw [hm]
      simp [Call.succeeded, hl, ht]
    · rw [hm]
      simp [Call.failedAs]
  | @failed e _ =>
    obtain ⟨v, seconds, now, hm, hw, hg'⟩ := hg.note_inv
    obtain ⟨hm', hw'⟩ := hg'.idle
    rw [hm] at hm'
    refine ⟨hw'.trans hw, by rw [hm']; rfl, by rw [hm']; rfl, fun k => ?_, fun k kind => ?_⟩
    · rw [hm']
      simp [Metrics.take, Metrics.failed, Call.succeeded, Except.isOk, Except.toBool]
    · rw [hm', Metrics.take, Metrics.count_failed]
      simp [Call.failedAs]

/-- Calls one after another, with any settings, for events on objects in a namespace. -/
inductive Calls : World → List Call → World → Prop
  | none {w : World} : Calls w [] w
  | call {w w' w'' : World} {calls : List Call} {s : Settings} {event : Metadata} {ns : String}
      {told : List (Exchange Answer)} {result : Except Error Action} :
    Calls w calls w' → event.ns = some ns → Ends (reconcile s event) told result →
    Goes w' told w'' → Calls w (calls ++ [⟨event.key, told, result⟩]) w''

/-- The metrics tell what happened in the calls so far. -/
structure Agrees (w : World) (calls : List Call) : Prop where
  transitions (a b : String) :
    w.metrics.transitions.count (a, b) = w.written.countP (moves a b)
  reconciliations (key : ObjectKey) : w.metrics.reconciliations.count key =
    calls.countP fun c => c.key = key && c.succeeded
  errors (key : ObjectKey) (kind : String) : w.metrics.errors.count (key, kind) =
    calls.countP fun c => c.key = key && c.failedAs kind
  conflicts : ∀ c ∈ calls, ∀ e, c.result = .error e → e.isConflict = false
  login : ∀ c, calls.getLast? = some c → ∃ state,
    (∀ s, ⟨.loginState, s⟩ ∈ c.told ↔ s = state) ∧
      ∀ s : LoginState, w.metrics.login.get? s.text = some (if s = state then 1 else 0)

theorem Agrees.call {calls : List Call} {s : Settings} {event : Metadata} {ns : String}
    {told : List (Exchange Answer)} {result : Except Error Action} (h : w.Agrees calls)
    (hw : w.Sound) (hn : event.ns = some ns) (he : Ends (reconcile s event) told result)
    (hg : Goes w told w') : w'.Agrees (calls ++ [⟨event.key, told, result⟩]) := by
  obtain ⟨u, login, v, rfl, hu, hb, hs⟩ := ends_reconcile hn he
  obtain ⟨w₁, hg₁, hg₂⟩ := hg.append_inv
  obtain ⟨ht₁, hm₁⟩ := Settled.booked h.transitions hw hb hg₁
  obtain ⟨w₂, hm₂, hl₂, hg₃⟩ := hg₂.login_inv
  have hbooks := books_of_settles hs (hs.lostRace login (.login login)) hg₃
  refine ⟨fun a b => ?_, fun key => ?_, fun key kind => ?_, ?_, ?_⟩
  · rw [hbooks.transitions, hbooks.written, hm₂, hl₂]
    exact ht₁ a b
  · rw [hbooks.reconciliations, hm₂, Metrics.showLogin, hm₁, h.reconciliations, List.countP_append,
      List.countP_singleton]
  · rw [hbooks.errors, hm₂, Metrics.showLogin, hm₁, h.errors, List.countP_append,
      List.countP_singleton]
  · intro c hc e hr
    rcases List.mem_append.mp hc with hc | hc
    · exact h.conflicts c hc e hr
    · obtain rfl := List.mem_singleton.mp hc
      obtain rfl : result = .error e := hr
      exact hs.not_conflict
  · intro c hc
    rw [List.getLast?_concat] at hc
    obtain rfl := Option.some.inj hc
    refine ⟨login, hs.login hu login (.login login), fun state => ?_⟩
    rw [hbooks.login, hm₂, Metrics.get?_showLogin]

theorem Calls.sound {calls : List Call} (h : Calls w calls w') (hw : w.Sound) : w'.Sound := by
  induction h with
  | none => exact hw
  | call _ _ _ hg ih => exact hg.sound ih

theorem agrees_empty (hm : w.metrics = .empty) (hl : w.written = []) : w.Agrees [] := by
  constructor
  · intro a b
    rw [hm, hl]
    rfl
  · intro key
    rw [hm]
    rfl
  · intro key kind
    rw [hm]
    rfl
  · intro c hc
    cases hc
  · intro c hc
    cases hc

/-- Whatever the store and the provider answer, and whoever else writes, the metrics agree
with what happened. -/
theorem metrics_agree {calls : List Call} (hw : w.Sound) (hm : w.metrics = .empty)
    (hl : w.written = []) (h : Calls w calls w') : w'.Agrees calls := by
  induction h with
  | none => exact agrees_empty hm hl
  | call hc hn he hg ih => exact ih.call (hc.sound hw) hn he hg

end World

namespace Sample

def world : World where
  records k := if k = Sample.key then .start fresh else ⟨none, []⟩
  metrics := .empty
  written := []

theorem world_sound : world.Sound := by
  constructor
  · intro k
    by_cases hk : k = Sample.key
    · simpa [world, hk] using Store.Record.sound_start fresh
    · have : Store.Record.Sound ⟨none, []⟩ := ⟨List.nodup_nil, fun c hc => by cases hc⟩
      simpa [world, hk] using this
  · intro k c hc
    by_cases hk : k = Sample.key
    · subst hk
      obtain rfl : c = fresh := by simpa [world, Store.Record.start] using hc
      rfl
    · simp [world, hk] at hc

def toldStart : List (Exchange Answer) :=
  [⟨.load Sample.key, .ok fresh⟩, ⟨.now, now⟩, ⟨.replaceStatus (entered fresh .pending now), .ok pending⟩,
    ⟨.note (.moved "unknown" "pending"), ()⟩, ⟨.loginState, .active⟩, ⟨.note (.login .active), ()⟩,
    ⟨.note (.succeeded Sample.key), ()⟩]

def toldRace : List (Exchange Answer) :=
  [⟨.load Sample.key, .ok pending⟩, ⟨.createCluster (pending.spec.createRequest "t1"), .ok ()⟩, ⟨.now, now⟩,
    ⟨.replaceStatus (entered pending .creating now), .error (.conflict "")⟩,
    ⟨.loginState, .active⟩, ⟨.note (.login .active), ()⟩]

def toldFailure : List (Exchange Answer) :=
  [⟨.load Sample.key, .ok pending⟩,
    ⟨.createCluster (pending.spec.createRequest "t1"), .error .loginFailed⟩,
    ⟨.loginState, .failed⟩, ⟨.note (.login .failed), ()⟩, ⟨.note (.failed Sample.key "login"), ()⟩]

/-- One call that succeeds, one that loses a race, and one that fails. -/
def calls : List Call :=
  [⟨Sample.key, toldStart, .ok .awaitChange⟩, ⟨Sample.key, toldRace, .ok (.requeue conflictDelay)⟩,
    ⟨Sample.key, toldFailure, .error (.provider .loginFailed)⟩]

theorem ends_start : Ends pass toldStart (.ok .awaitChange) :=
  .later (.later (.later (.later (.later (.later (.later .now))))))

theorem ends_race : Ends pass toldRace (.ok (.requeue conflictDelay)) :=
  .later (.later (.later (.later (.later (.later .now)))))

theorem ends_failure : Ends pass toldFailure (.error (.provider .loginFailed)) :=
  .later (.later (.later (.later (.later .now))))

open World

theorem goes_start : ∃ w, Goes world toldStart w ∧ w.written = [(fresh, pending)] ∧
    w.records Sample.key = ⟨some pending, [pending, fresh]⟩ := by
  refine ⟨_, .tells (.dealt rfl (.read List.mem_cons_self)) (.tells (.aside (.inl trivial))
    (.tells (.dealt rfl (.accepted ⟨fresh, "2", rfl, rfl, by decide, rfl⟩))
    (.tells (@Tells.noted _ _ 0 0) (.tells (.aside (.inr rfl)) (.tells (@Tells.noted _ _ 0 0)
    (.tells (@Tells.noted _ _ 0 0) .refl)))))), rfl, rfl⟩

theorem goes_race (hp : pending ∈ (w.records Sample.key).versions) :
    ∃ w', Goes w toldRace w' ∧ w'.written = w.written ∧ pending ∈ (w'.records Sample.key).versions := by
  have hg : Goes w toldRace _ := .tells (.dealt rfl (.read hp)) (.tells (.aside (.inl trivial))
    (.tells (.aside (.inl trivial)) (.tells (.dealt rfl .refused) (.tells (.aside (.inr rfl))
    (.tells (@Tells.noted _ _ 0 0) .refl)))))
  exact ⟨_, hg, by simp [note, writes], hg.grows _ hp⟩

theorem goes_failure (hp : pending ∈ (w.records Sample.key).versions) :
    ∃ w', Goes w toldFailure w' ∧ w'.written = w.written := by
  have hg : Goes w toldFailure _ := .tells (.dealt rfl (.read hp)) (.tells (.aside (.inl trivial))
    (.tells (.aside (.inr rfl)) (.tells (@Tells.noted _ _ 0 0)
    (.tells (@Tells.noted _ _ 0 0) .refl))))
  exact ⟨_, hg, by simp [note, writes]⟩

theorem calls_go : ∃ w, Calls world calls w ∧ w.written = [(fresh, pending)] := by
  obtain ⟨w₁, hg₁, hw₁, hr₁⟩ := goes_start
  obtain ⟨w₂, hg₂, hw₂, hp₂⟩ := goes_race (w := w₁) (by rw [hr₁]; exact List.mem_cons_self)
  obtain ⟨w₃, hg₃, hw₃⟩ := goes_failure hp₂
  have h₁ : Calls world _ w₁ := .call .none rfl ends_start hg₁
  have h₂ : Calls world _ w₂ := .call h₁ rfl ends_race hg₂
  have h₃ : Calls world _ w₃ := .call h₂ rfl ends_failure hg₃
  exact ⟨w₃, h₃, hw₃.trans (hw₂.trans hw₁)⟩

end Sample

theorem World.metrics_agree_failure : ∃ w, World.Calls Sample.world Sample.calls w ∧
    w.Agrees Sample.calls ∧ w.metrics.transitions.count ("unknown", "pending") = 1 ∧
    w.metrics.reconciliations.count Sample.key = 1 ∧
    w.metrics.errors.count (Sample.key, "login") = 1 ∧
    w.metrics.login.get? "failed" = some 1 := by
  obtain ⟨w, hc, hw⟩ := Sample.calls_go
  have ha := World.metrics_agree Sample.world_sound rfl rfl hc
  refine ⟨w, hc, ha, ?_, ?_, ?_, ?_⟩
  · rw [ha.transitions, hw]
    decide
  · rw [ha.reconciliations]
    decide
  · rw [ha.errors]
    decide
  · obtain ⟨state, hs, hg⟩ := ha.login _ rfl
    obtain rfl := (hs .failed).mp (by simp [Sample.toldFailure])
    exact hg .failed

end ClusterOperator.Reconcile
