import ClusterOperator.Proofs.Reconcile.TeamPassage
import ClusterOperator.Proofs.Reconcile.TeamRounds

/-!
# Passes over a team, one after another

Whatever listings, clocks and the store come to, and whatever others edit of the object but
its status: the status is what the completed passes made of it, and so it tells of the last
of them, and lists the teams of the last that got any.
-/

namespace ClusterOperator.Reconcile.TeamPass

open Resource (Team Metadata)
open Resource.Team (Condition setCondition syncedKind)
open Provider (TeamList)
open Program

/-! ## The stored object -/

/-- The object, as long as it is there, and how many status writes were accepted so far. -/
structure Filing where
  stored : Option Team
  accepted : Nat

namespace Filing

/-- What the store and the others that a pass asks may answer. -/
inductive Tells : Filing → Exchange Answer → Filing → Prop
  | loaded {s : Filing} {key : Resource.ObjectKey} {t : Team} : s.stored = some t →
    Tells s ⟨.load key, .ok t⟩ s
  | unloaded {s : Filing} {key : Resource.ObjectKey} {e : Store.Error} :
    Tells s ⟨.load key, .error e⟩ s
  /-- Only a writer that saw what is stored is heard, and may not get to know that it was. -/
  | accepted {s : Filing} {t sent kept : Team} {version : String} {r : Except Store.Error Team} :
    s.stored = some t → sent.metadata.resourceVersion = t.metadata.resourceVersion →
    kept = { t with
      status := sent.status
      metadata := { t.metadata with resourceVersion := some version } } →
    (r = .ok kept ∨ ∃ e, r = .error e) →
    Tells s ⟨.replaceStatus sent, r⟩ ⟨some kept, s.accepted + 1⟩
  | refused {s : Filing} {sent : Team} {e : Store.Error} : Tells s ⟨.replaceStatus sent, .error e⟩ s
  | listed {s : Filing} {ns secret : String} {r : Except Provider.Error TeamList} :
    Tells s ⟨.listTeams ns secret, r⟩ s
  | clocked {s : Filing} {now : Timestamp} : Tells s ⟨.now, now⟩ s
  | noted {s : Filing} {n : Note} : Tells s ⟨.note n, ()⟩ s

/-- What other writers do, who leave the status alone. -/
inductive Drifts : Filing → Filing → Prop
  | edited {s : Filing} {t kept : Team} : s.stored = some t → kept.status = t.status →
    Drifts s ⟨some kept, s.accepted⟩
  | removed {s : Filing} : Drifts s ⟨none, s.accepted⟩

inductive Goes : Filing → List (Exchange Answer) → Filing → Prop
  | nil {s : Filing} : Goes s [] s
  | drift {s u s' : Filing} {told : List (Exchange Answer)} : Drifts s u → Goes u told s' →
    Goes s told s'
  | tell {s u s' : Filing} {x : Exchange Answer} {told : List (Exchange Answer)} : Tells s x u →
    Goes u told s' → Goes s (x :: told) s'

variable {s s' : Filing} {x : Exchange Answer} {told more : List (Exchange Answer)}

theorem Goes.split (h : Goes s (told ++ more) s') : ∃ u, Goes s told u ∧ Goes u more s' := by
  generalize ha : told ++ more = all at h
  induction h generalizing told with
  | nil =>
    obtain ⟨rfl, rfl⟩ := List.append_eq_nil_iff.mp ha
    exact ⟨_, .nil, .nil⟩
  | drift hd _ ih =>
    obtain ⟨u, h₁, h₂⟩ := ih ha
    exact ⟨u, .drift hd h₁, h₂⟩
  | @tell s v s' x rest ht h ih =>
    cases told with
    | nil =>
      rw [List.nil_append] at ha
      exact ⟨s, .nil, ha ▸ .tell ht h⟩
    | cons y told =>
      obtain ⟨hy, ha⟩ := List.cons.inj ha
      obtain ⟨u, h₁, h₂⟩ := ih ha
      exact ⟨u, hy ▸ .tell ht h₁, h₂⟩

/-- Nothing new is stored, and the status is what it was. -/
def Keeps (s s' : Filing) : Prop :=
  s'.accepted = s.accepted ∧ ∀ t', s'.stored = some t' → ∃ t, s.stored = some t ∧ t'.status = t.status

theorem Keeps.refl : Keeps s s := ⟨rfl, fun t ht => ⟨t, ht, rfl⟩⟩

theorem Keeps.trans {u : Filing} (h : Keeps s u) (h' : Keeps u s') : Keeps s s' := by
  refine ⟨h'.1.trans h.1, fun t' ht' => ?_⟩
  obtain ⟨t₁, ht₁, hs₁⟩ := h'.2 t' ht'
  obtain ⟨t, ht, hs⟩ := h.2 t₁ ht₁
  exact ⟨t, ht, hs₁.trans hs⟩

theorem Drifts.keeps (h : Drifts s s') : Keeps s s' := by
  cases h with
  | edited ht hs =>
    refine ⟨rfl, fun t' ht' => ⟨_, ht, ?_⟩⟩
    cases ht'
    exact hs
  | removed => exact ⟨rfl, fun t' ht' => absurd ht' (by simp)⟩

def isWrite (x : Exchange Answer) : Bool :=
  match x.question with
  | .replaceStatus _ => true
  | _ => false

section
variable {sent : Team} {r : Except Store.Error Team} {key : Resource.ObjectKey}
  {r' : Except Store.Error Team} {ns secret : String} {listing : Except Provider.Error TeamList}
  {now : Timestamp}

@[simp] theorem isWrite_replaceStatus : isWrite ⟨.replaceStatus sent, r⟩ = true := rfl
@[simp] theorem isWrite_load : isWrite ⟨.load key, r'⟩ = false := rfl
@[simp] theorem isWrite_listTeams : isWrite ⟨.listTeams ns secret, listing⟩ = false := rfl
@[simp] theorem isWrite_now : isWrite ⟨.now, now⟩ = false := rfl

end

theorem Tells.keeps (h : Tells s x s') (hx : isWrite x = false) : Keeps s s' := by
  cases h with
  | accepted _ _ _ _ => simp at hx
  | _ => exact .refl

theorem Goes.keeps (h : Goes s told s') (hw : ∀ x ∈ told, isWrite x = false) : Keeps s s' := by
  induction h with
  | nil => exact .refl
  | drift hd _ ih => exact hd.keeps.trans (ih hw)
  | tell ht _ ih =>
    have hx := ht.keeps (hw _ List.mem_cons_self)
    exact hx.trans (ih fun x hm => hw x (List.mem_cons_of_mem _ hm))

theorem Goes.cons (h : Goes s (x :: told) s') :
    ∃ u v, Keeps s u ∧ Tells u x v ∧ Goes v told s' := by
  generalize ha : x :: told = all at h
  induction h with
  | nil => cases ha
  | drift hd _ ih =>
    obtain ⟨u, v, hk, ht, hg⟩ := ih ha
    exact ⟨u, v, hd.keeps.trans hk, ht, hg⟩
  | tell ht hg _ =>
    obtain ⟨rfl, rfl⟩ := List.cons.inj ha
    exact ⟨_, _, .refl, ht, hg⟩

end Filing

open Filing

/-! ## One pass -/

variable {t t' : Team} {ns : String} {listing listing' : Except Provider.Error TeamList}
  {now now' : Timestamp} {told mid mid' rest rest' : List (Exchange Answer)} {q : Question}

theorem Lists.reads (h : Lists t ns listing mid) : ∀ x ∈ mid, isWrite x = false := by
  cases h with
  | blank _ => simp
  | asked _ =>
    intro x hx
    rw [List.mem_singleton.mp hx]
    simp

theorem Poses.reads {sent : Team} (h : Poses ns told (.replaceStatus sent)) :
    ∀ x ∈ told, isWrite x = false := by
  cases h with
  | write hl _ =>
    intro x hx
    rcases List.mem_cons.mp hx with rfl | hx
    · simp
    rcases List.mem_append.mp hx with hx | hx
    · exact hl.reads x hx
    · rw [List.mem_singleton.mp hx]
      simp

/-- A pass writes once at most, after it had all that the report is made of. -/
theorem written_of_hears {event : Metadata} (h : Hears (reconcile event) told) :
    (∀ x ∈ told, isWrite x = false) ∨
      ∃ ns key t listing now mid a rest, Lists t ns listing mid ∧
        t.status ≠ some (report t listing now) ∧
        told = ⟨.load key, .ok t⟩ :: (mid ++ ⟨.now, now⟩ ::
          ⟨.replaceStatus (reported t listing now), a⟩ :: rest) ∧
        ∀ x ∈ rest, isWrite x = false := by
  by_cases hw : ∀ x ∈ told, isWrite x = false
  · exact .inl hw
  obtain ⟨⟨q, a⟩, hn⟩ := Classical.not_forall.mp hw
  obtain ⟨hm, hx⟩ := Classical.not_imp.mp hn
  obtain ⟨before, rest, rfl⟩ := List.append_of_mem hm
  cases q with
  | replaceStatus sent =>
    obtain ⟨ns, hp⟩ := asks_reconcile h.asks
    -- a second write would have the first one before it
    have hrest : ∀ y ∈ rest, isWrite y = false := by
      intro y hy
      obtain ⟨mid, after, rfl⟩ := List.append_of_mem hy
      rw [← List.cons_append, ← List.append_assoc] at h
      obtain ⟨q', b⟩ := y
      cases q' with
      | replaceStatus sent' =>
        obtain ⟨ns', hp'⟩ := asks_reconcile h.asks
        exact absurd (hp'.reads ⟨.replaceStatus sent, a⟩ (by simp)) (by simp [isWrite])
      | _ => rfl
    cases hp with
    | @write key t listing now mid hl hne =>
      exact .inr ⟨ns, key, t, listing, now, mid, a, rest, hl, hne, by simp, hrest⟩
  | _ => exact absurd rfl hx

def Prepares (told : List (Exchange Answer)) (t : Team) (r : Round) : Prop :=
  r.generation = t.metadata.generation ∧ ∃ ns key mid rest, Lists t ns r.listing mid ∧
    told = ⟨.load key, .ok t⟩ :: (mid ++ ⟨.now, r.now⟩ :: rest)

/-- The pass found the object, and its write was accepted or not needed. -/
def Completes (s s' : Filing) (told : List (Exchange Answer)) (r : Round) : Prop :=
  ∃ t, Prepares told t r ∧
    (t.status = some (report t r.listing r.now) ∨ s'.accepted ≠ s.accepted)

theorem Lists.unique {ns' : String} (h : Lists t ns listing mid) (h' : Lists t ns' listing' mid')
    (he : mid ++ ⟨.now, now⟩ :: rest = mid' ++ ⟨.now, now'⟩ :: rest') :
    listing = listing' ∧ now = now' := by
  cases h with
  | blank hb =>
    cases h' with
    | blank _ =>
      cases he
      exact ⟨rfl, rfl⟩
    | asked hn =>
      rw [hb] at hn
      cases hn
  | asked hn =>
    cases h' with
    | blank hb =>
      rw [hb] at hn
      cases hn
    | asked _ =>
      simp only [List.cons_append, List.nil_append, List.cons.injEq, Exchange.mk.injEq] at he
      obtain ⟨⟨hq, ha⟩, ⟨-, hn⟩, -⟩ := he
      exact ⟨eq_of_heq ha, eq_of_heq hn⟩

theorem Prepares.report_eq {r : Round} (h : Prepares told t r) :
    report t r.listing r.now = r.report t.status := by
  obtain ⟨generation, listing, now⟩ := r
  obtain ⟨rfl, -⟩ := h
  rfl

/-- Passes one after another. Rounds are of those that were completed, the latest first; a
pass may stop anywhere. -/
inductive History (first : Team) : List Round → Filing → Prop
  | start : History first [] ⟨some first, 0⟩
  | completed {event : Metadata} {rounds : List Round} {s s' : Filing} {r : Round}
    {told : List (Exchange Answer)} : History first rounds s → Hears (reconcile event) told →
    Goes s told s' → Completes s s' told r → History first (r :: rounds) s'
  | missed {event : Metadata} {rounds : List Round} {s s' : Filing} {told : List (Exchange Answer)} :
    History first rounds s → Hears (reconcile event) told → Goes s told s' →
    (∀ r, ¬ Completes s s' told r) → History first rounds s'

variable {first : Team} {rounds : List Round} {s s' : Filing} {r : Round}

/-- One write in the middle: it is heard, or all is as it was. -/
theorem Filing.Goes.written {sent : Team} {a : Except Store.Error Team}
    (h : Goes s (told ++ ⟨.replaceStatus sent, a⟩ :: rest) s')
    (ht : ∀ x ∈ told, isWrite x = false) (hr : ∀ x ∈ rest, isWrite x = false) :
    Keeps s s' ∨ s'.accepted ≠ s.accepted ∧ ∀ t', s'.stored = some t' → t'.status = sent.status := by
  obtain ⟨u, h₁, h₂⟩ := h.split
  obtain ⟨v, w, hv, hx, h₃⟩ := h₂.cons
  have hb := (h₁.keeps ht).trans hv
  have ha := h₃.keeps hr
  cases hx with
  | refused => exact .inl (hb.trans ha)
  | accepted _ _ hk _ =>
    refine .inr ⟨?_, fun t' ht' => ?_⟩
    · have h₄ := ha.1
      have h₅ := hb.1
      simp only at h₄
      omega
    · obtain ⟨t, h₄, hs⟩ := ha.2 t' ht'
      obtain rfl := Option.some.inj h₄
      rw [hs, hk]

theorem Filing.Goes.loaded {key : Resource.ObjectKey}
    (h : Goes s (⟨.load key, .ok t⟩ :: told) s') : ∃ t₁, s.stored = some t₁ ∧ t.status = t₁.status := by
  obtain ⟨u, v, hk, hx, -⟩ := h.cons
  cases hx with
  | loaded hu => exact hk.2 t hu

theorem Prepares.of_written {key : Resource.ObjectKey} {a : Except Store.Error Team}
    (hl : Lists t ns listing mid) (ht : told = ⟨.load key, .ok t⟩ :: (mid ++ ⟨.now, now⟩ ::
      ⟨.replaceStatus (reported t listing now), a⟩ :: rest)) :
    Prepares told t ⟨t.metadata.generation, listing, now⟩ :=
  ⟨rfl, ns, key, mid, _, hl, ht⟩

theorem Prepares.unique {r' : Round} (h : Prepares told t r) (h' : Prepares told t' r') :
    t = t' ∧ r = r' := by
  obtain ⟨hg, ns, key, mid, rest, hl, ht⟩ := h
  obtain ⟨hg', ns', key', mid', rest', hl', ht'⟩ := h'
  rw [ht] at ht'
  obtain ⟨hx, he⟩ := List.cons.inj ht'
  simp only [Exchange.mk.injEq, Question.load.injEq] at hx
  obtain ⟨rfl, hx⟩ := hx
  obtain rfl := Except.ok.inj (eq_of_heq hx)
  obtain ⟨hi, hn⟩ := hl.unique hl' he
  refine ⟨rfl, ?_⟩
  cases r
  cases r'
  simp only at hg hg' hi hn
  rw [hg, hg', hi, hn]

/-- The status after a pass: of a completed one its report, of another what it was. -/
theorem status_of_hears {event : Metadata} (h : Hears (reconcile event) told) (hg : Goes s told s') :
    (∃ r t, Prepares told t r ∧ Completes s s' told r ∧
      ∀ t', s'.stored = some t' → t'.status = some (r.report t.status)) ∨ Keeps s s' := by
  rcases written_of_hears h with hw | ⟨ns, key, t, listing, now, mid, a, rest, hl, hne, rfl, hr⟩
  · exact .inr (hg.keeps hw)
  have hp : Prepares (⟨.load key, .ok t⟩ :: (mid ++ ⟨.now, now⟩ ::
      ⟨.replaceStatus (reported t listing now), a⟩ :: rest)) t
      ⟨t.metadata.generation, listing, now⟩ := .of_written hl rfl
  have hb : ∀ x ∈ (⟨.load key, .ok t⟩ :: (mid ++ [⟨.now, now⟩]) : List (Exchange Answer)),
      isWrite x = false := (Poses.write hl hne).reads
  have hg' : Goes s ((⟨.load key, .ok t⟩ :: (mid ++ [⟨.now, now⟩])) ++
      ⟨.replaceStatus (reported t listing now), a⟩ :: rest) s' := by
    simpa using hg
  rcases hg'.written hb hr with hk | ⟨ha, hs⟩
  · exact .inr hk
  · refine .inl ⟨_, t, hp, ⟨t, hp, .inr ha⟩, fun t' ht' => ?_⟩
    rw [hs t' ht', ← hp.report_eq]
    rfl

theorem Prepares.loaded (h : Prepares told t r) (hg : Goes s told s') :
    ∃ t₁, s.stored = some t₁ ∧ t.status = t₁.status := by
  obtain ⟨-, ns, key, mid, rest, -, rfl⟩ := h
  exact hg.loaded

theorem History.status_eq (h : History first rounds s) :
    ∀ t, s.stored = some t → t.status = settled first.status rounds := by
  induction h with
  | start =>
    intro t ht
    obtain rfl := Option.some.inj ht
    rfl
  | @completed event rounds s s' r told _ hh hg hc ih =>
    intro t' ht'
    obtain ⟨t, hp, hd⟩ := hc
    obtain ⟨t₁, h₁, hs⟩ := hp.loaded hg
    have hb : t.status = settled first.status rounds := hs.trans (ih t₁ h₁)
    unfold TeamPass.settled
    rw [← hb]
    rcases status_of_hears hh hg with ⟨r', t₂, hp', -, hw⟩ | hk
    · obtain ⟨rfl, rfl⟩ := hp.unique hp'
      exact hw t' ht'
    rcases hd with hd | hd
    · -- nothing was written, as nothing would have changed
      obtain ⟨t₃, h₃, hs₃⟩ := hk.2 t' ht'
      rw [hs₃, ih t₃ h₃, ← hb, ← hp.report_eq]
      exact hd
    · exact absurd hk.1 hd
  | missed _ hh hg hm ih =>
    intro t' ht'
    rcases status_of_hears hh hg with ⟨r', t, hp, hc, -⟩ | hk
    · exact absurd hc (hm r')
    · obtain ⟨t, ht, hs⟩ := hk.2 t' ht'
      rw [hs]
      exact ih t ht

/-- After any passes: the teams are those of the last listing that a completed pass got, and
the one condition of the pass's kind is about the last completed pass, since the last one that
changed what it says. -/
theorem status_tells_of_rounds (h : History first rounds s) (ht : s.stored = some t)
    (hone : (own first.status).length ≤ 1) :
    (t.status.getD .empty).teams =
        (match rounds.findSome? (·.listing.toOption) with
        | some list => list.teams.map fun team =>
            ⟨team.id, if team.isPersonal then "Personal" else team.name⟩
        | none => (first.status.getD .empty).teams) ∧
      others t.status = others first.status ∧
      (rounds = [] → t.status = first.status) ∧
      ∀ r older, rounds = r :: older → ∃ c, own t.status = [c] ∧
        (c.status = "True" ↔ ∃ list, r.listing = .ok list) ∧ c.status = r.outcome ∧
        c.reason = r.reason ∧ c.message = r.message ∧ c.observedGeneration = r.generation ∧
        some c.lastTransitionTime = since (own first.status).head? rounds := by
  have hs := h.status_eq t ht
  refine ⟨?_, ?_, ?_, ?_⟩
  · rw [hs, settled_teams]
    rfl
  · rw [hs, settled_others]
  · rintro rfl
    exact hs
  · rintro r older rfl
    obtain ⟨c, hc, ho, hr, hm, hg, hl⟩ := own_settled_cons r older hone
    refine ⟨c, by rw [hs, hc], ?_, ho, hr, hm, hg, hl⟩
    rw [ho]
    exact outcome_true

/-! ## A pass that writes -/

theorem Lists.ends (h : Lists t ns listing mid) : Ends (list t ns).run mid (.ok listing) := by
  unfold list
  cases h with
  | blank hb =>
    rw [if_pos hb]
    exact .now
  | asked hb =>
    dsimp only
    rw [hb]
    exact ends_lift_bind.mpr ⟨_, [], rfl, .now⟩

theorem Lists.hears_write {event : Metadata} {a : Except Store.Error Team} (hn : event.ns = some ns)
    (h : Lists t ns listing mid) (hne : t.status ≠ some (report t listing now)) :
    Hears (reconcile event) (⟨.load ⟨ns, event.anyName⟩, .ok t⟩ ::
      (mid ++ [⟨.now, now⟩, ⟨.replaceStatus (reported t listing now), a⟩])) := by
  have hw : Asks (writeStatus t (report t listing now)).run [] (.replaceStatus (reported t listing now)) := by
    unfold writeStatus
    rw [if_neg hne]
    exact asks_lift_bind.mpr (.inl ⟨rfl, rfl⟩)
  have hb : Asks (body ⟨ns, event.anyName⟩).run (⟨.load ⟨ns, event.anyName⟩, .ok t⟩ ::
      (mid ++ [⟨.now, now⟩])) (.replaceStatus (reported t listing now)) := by
    refine asks_lift_bind.mpr (.inr ⟨.ok t, _, rfl, ?_⟩)
    refine asks_try_bind.mpr (.inr ⟨listing, mid, _, h.ends, ?_, rfl⟩)
    exact asks_lift_bind.mpr (.inr ⟨now, [], rfl, asks_try_bind.mpr (.inl hw)⟩)
  have hr : Asks (reconcile event) (⟨.load ⟨ns, event.anyName⟩, .ok t⟩ ::
      (mid ++ [⟨.now, now⟩])) (.replaceStatus (reported t listing now)) := by
    unfold reconcile
    rw [hn]
    exact hb.bind
  simpa using hr.hears (x := ⟨Question.replaceStatus (reported t listing now), a⟩)

theorem Lists.goes (h : Lists t ns listing mid) (hr : Goes s rest s') : Goes s (mid ++ rest) s' := by
  cases h with
  | blank _ => exact hr
  | asked _ => exact .tell .listed hr

/-- A pass with nobody else at the object, whose report differs from what it loaded. -/
theorem Lists.completes (event : Metadata) {n : Nat} {version : String} {kept : Team}
    (hn : event.ns = some ns) (hl : Lists t ns r.listing mid)
    (hg : r.generation = t.metadata.generation) (hne : t.status ≠ some (r.report t.status))
    (hk : kept = { t with
      status := some (r.report t.status)
      metadata := { t.metadata with resourceVersion := some version } }) :
    ∃ told, Hears (reconcile event) told ∧ Goes ⟨some t, n⟩ told ⟨some kept, n + 1⟩ ∧
      Completes ⟨some t, n⟩ ⟨some kept, n + 1⟩ told r := by
  have hp : Prepares (⟨.load ⟨ns, event.anyName⟩, .ok t⟩ ::
      (mid ++ [⟨.now, r.now⟩, ⟨.replaceStatus (reported t r.listing r.now), .ok kept⟩])) t r :=
    ⟨hg, ns, _, mid, _, hl, rfl⟩
  have hs : kept = { t with
      status := (reported t r.listing r.now).status
      metadata := { t.metadata with resourceVersion := some version } } := by
    rw [hk, ← hp.report_eq]
    rfl
  refine ⟨_, hl.hears_write hn (by rwa [hp.report_eq]), .tell (.loaded rfl) ?_, t, hp, .inr (by simp)⟩
  exact hl.goes (.tell .clocked (.tell (.accepted rfl rfl hs (.inl rfl)) .nil))

theorem History.reports (event : Metadata) {n : Nat} {version : String} {kept : Team}
    (h : History first rounds ⟨some t, n⟩) (hn : event.ns = some ns)
    (hl : Lists t ns r.listing mid) (hg : r.generation = t.metadata.generation)
    (hne : t.status ≠ some (r.report t.status))
    (hk : kept = { t with
      status := some (r.report t.status)
      metadata := { t.metadata with resourceVersion := some version } }) :
    History first (r :: rounds) ⟨some kept, n + 1⟩ := by
  obtain ⟨told, hh, hgo, hc⟩ := hl.completes event (n := n) hn hg hne hk
  exact .completed h hh hgo hc

/-! ## A listing and then none -/

namespace Sample

def metadata : Metadata where
  annotations := none
  creationTimestamp := none
  deletionGracePeriodSeconds := none
  deletionTimestamp := none
  finalizers := none
  generateName := none
  generation := some 1
  labels := none
  managedFields := none
  name := some "tenants"
  ns := some "apps"
  ownerReferences := none
  resourceVersion := some "1"
  selfLink := none
  uid := none

def fresh : Team := ⟨metadata, ⟨⟨"key-pair", none⟩⟩, none⟩

def morning : Timestamp := (Timestamp.ofParts? 2024 5 1 8 0 0 0).get rfl

def evening : Timestamp := (Timestamp.ofParts? 2024 5 1 20 0 0 0).get rfl

def listed : Round := ⟨some 1, .ok ⟨[⟨"t1", "Ada", true⟩, ⟨"t2", "Ops", false⟩]⟩, morning⟩

def failed : Round := ⟨some 1, .error .addressMissing, evening⟩

def after (t : Team) (r : Round) (version : String) : Team :=
  { t with
    status := some (r.report t.status)
    metadata := { t.metadata with resourceVersion := some version } }

theorem lists {t : Team} (hs : t.spec = fresh.spec) (hm : t.metadata.ns = some "apps")
    {r : Except Provider.Error TeamList} :
    Lists t "apps" r [⟨.listTeams "apps" "key-pair", r⟩] := by
  have hn : t.secretNamespace.getD "apps" = "apps" := by
    unfold Team.secretNamespace
    rw [hs, hm]
    rfl
  have ht : Text.trim t.spec.credentialsRef.name = "key-pair" := by
    rw [hs]
    decide
  have hl : Lists t "apps" r [⟨.listTeams (t.secretNamespace.getD "apps")
      (Text.trim t.spec.credentialsRef.name), r⟩] := .asked (by rw [ht]; decide)
  rwa [hn, ht] at hl

theorem runs : History fresh [failed, listed]
    ⟨some (after (after fresh listed "2") failed "3"), 2⟩ := by
  have h₁ : History fresh [listed] ⟨some (after fresh listed "2"), 1⟩ :=
    History.start.reports metadata rfl (lists rfl rfl) rfl (by simp [fresh]) rfl
  refine h₁.reports metadata rfl (lists (t := after fresh listed "2") rfl rfl) rfl ?_ rfl
  intro he
  have hs := congrArg (fun st => (own st).map (·.status)) he
  exact absurd hs (by decide)

end Sample

/-- After a listing and then an address that is missing, the teams are still those listed, and
the condition says since when there are no new ones. -/
theorem status_tells_of_rounds_failed : ∃ t s,
    History Sample.fresh [Sample.failed, Sample.listed] s ∧ s.stored = some t ∧
      (t.status.getD .empty).teams = [⟨"t1", "Personal"⟩, ⟨"t2", "Ops"⟩] ∧
      ∃ c, own t.status = [c] ∧ c.status = "False" ∧ c.reason = "AuthenticationError" ∧
        c.lastTransitionTime = Sample.evening.toSecondsText := by
  obtain ⟨hl, -, -, hc⟩ := status_tells_of_rounds Sample.runs rfl (by decide)
  obtain ⟨c, hc, -, ho, hr, -, -, ht⟩ := hc _ _ rfl
  exact ⟨_, _, Sample.runs, rfl, hl, c, hc, ho, hr, Option.some.inj ht⟩

end ClusterOperator.Reconcile.TeamPass
