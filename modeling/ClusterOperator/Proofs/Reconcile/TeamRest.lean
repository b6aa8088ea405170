import ClusterOperator.Proofs.Reconcile.TeamHistory

/-!
# Passes that find nothing to write

A status that a pass has reported is what later passes report as well, as long as they get
the same listing for the same generation. The clock alone is no reason to write.
-/

namespace ClusterOperator.Reconcile.TeamPass

open Resource (Team Metadata)
open Resource.Team (setCondition setCondition_again)
open Provider (TeamList)
open Program Filing

variable {s u s' s'' : Filing} {t : Team} {r r' : Round} {x : Exchange Answer}
  {told : List (Exchange Answer)} {event : Metadata}

theorem report_again (r r' : Round) (hl : r'.listing = r.listing) (hg : r'.generation = r.generation)
    (before : Option Team.Status) : r'.report (some (r.report before)) = r.report before := by
  unfold Round.report
  rw [hl, hg]
  congr 1
  · exact setCondition_again _ _ _ _ _
  · cases r.listing with
    | ok list => rfl
    | error e => rfl

/-- What is stored, if anything, is what the round reported. -/
def AtRest (r : Round) (s : Filing) : Prop :=
  ∀ t, s.stored = some t → ∃ before, t.status = some (r.report before)

theorem Completes.atRest (h : Completes s s' told r) (hh : Hears (reconcile event) told)
    (hg : Goes s told s') : AtRest r s' := by
  intro t' ht'
  obtain ⟨t, hp, hd⟩ := h
  rcases status_of_hears hh hg with ⟨r', t₁, hp', -, hw⟩ | hk
  · obtain ⟨rfl, rfl⟩ := hp.unique hp'
    exact ⟨t.status, hw t' ht'⟩
  rcases hd with hd | hd
  · obtain ⟨t₁, h₁, hs₁⟩ := hk.2 t' ht'
    obtain ⟨t₂, h₂, hs₂⟩ := hp.loaded hg
    have hsame : t₁ = t₂ := Option.some.inj (h₁.symm.trans h₂)
    refine ⟨t.status, ?_⟩
    rw [hs₁, hsame, ← hs₂, ← hp.report_eq]
    exact hd
  · exact absurd hk.1 hd

/-! ## With nobody else -/

/-- The same as `Goes`, but no other writer comes between. -/
inductive Alone : Filing → List (Exchange Answer) → Filing → Prop
  | nil {s : Filing} : Alone s [] s
  | tell {s u s' : Filing} {x : Exchange Answer} {told : List (Exchange Answer)} : Tells s x u →
    Alone u told s' → Alone s (x :: told) s'

theorem Alone.goes (h : Alone s told s') : Goes s told s' := by
  induction h with
  | nil => exact .nil
  | tell ht _ ih => exact .tell ht ih

theorem Filing.Tells.unmoved (h : Tells s x s') (hx : isWrite x = false) : s' = s := by
  cases h with
  | accepted _ _ _ _ => simp at hx
  | _ => rfl

theorem Alone.unmoved (h : Alone s told s') (hw : ∀ x ∈ told, isWrite x = false) : s' = s := by
  induction h with
  | nil => rfl
  | tell ht _ ih =>
    have hu := ht.unmoved (hw _ List.mem_cons_self)
    rw [ih fun x hx => hw x (List.mem_cons_of_mem _ hx), hu]

theorem Alone.loaded {key : Resource.ObjectKey} (h : Alone s (⟨.load key, .ok t⟩ :: told) s') :
    s.stored = some t := by
  cases h with
  | tell ht _ =>
    cases ht with
    | loaded hs => exact hs

/-- All that the pass gets to report on is the same as in the round. -/
def Agrees (r : Round) (told : List (Exchange Answer)) : Prop :=
  ∀ t r', Prepares told t r' → r'.listing = r.listing ∧ r'.generation = r.generation

/-- A pass that finds its report stored writes nothing. -/
theorem AtRest.pass (h : AtRest r s) (hh : Hears (reconcile event) told) (ha : Alone s told s')
    (hr : Agrees r told) : s' = s ∧ ∀ x ∈ told, isWrite x = false := by
  have hw : ∀ x ∈ told, isWrite x = false := by
    rcases written_of_hears hh with hw | ⟨ns, key, t, listing, now, mid, a, rest, hl, hne, rfl, -⟩
    · exact hw
    -- it would have had a reason to, but what it loaded is its report
    have hp : Prepares (⟨.load key, .ok t⟩ :: (mid ++ ⟨.now, now⟩ ::
        ⟨.replaceStatus (reported t listing now), a⟩ :: rest)) t
        ⟨t.metadata.generation, listing, now⟩ := .of_written hl rfl
    obtain ⟨hlist, hgen⟩ := hr t _ hp
    obtain ⟨before, hb⟩ := h t ha.loaded
    have he := hp.report_eq
    simp only [hb, report_again _ _ hlist hgen] at he
    exact absurd (hb.trans (congrArg some he.symm)) hne
  exact ⟨ha.unmoved hw, hw⟩

/-- Passes one after another, for whatever events, that get what the round got. -/
inductive Repeats (r : Round) : Filing → List (List (Exchange Answer)) → Filing → Prop
  | nil {s : Filing} : Repeats r s [] s
  | pass {event : Metadata} {s u s' : Filing} {told : List (Exchange Answer)}
    {more : List (List (Exchange Answer))} : Hears (reconcile event) told → Alone s told u →
    Agrees r told → Repeats r u more s' → Repeats r s (told :: more) s'

theorem AtRest.repeats {passes : List (List (Exchange Answer))} (h : AtRest r s)
    (hr : Repeats r s passes s') :
    s' = s ∧ ∀ told ∈ passes, ∀ x ∈ told, isWrite x = false := by
  induction hr with
  | nil => exact ⟨rfl, by simp⟩
  | pass hh ha hg _ ih =>
    obtain ⟨rfl, hw⟩ := h.pass hh ha hg
    obtain ⟨hs, hm⟩ := ih h
    exact ⟨hs, List.forall_mem_cons.mpr ⟨hw, hm⟩⟩

/-- After a pass that found the object, and whose write was accepted or not needed: passes that
get the same listing for the same generation, with no other writer, write nothing and leave all
that is stored as it is, its version too. -/
theorem repeated_passes_write_nothing {passes : List (List (Exchange Answer))}
    (h : Hears (reconcile event) told) (hg : Goes s told s') (hc : Completes s s' told r)
    (hr : Repeats r s' passes s'') :
    s'' = s' ∧ ∀ told ∈ passes, ∀ x ∈ told, isWrite x = false :=
  (hc.atRest h hg).repeats hr

/-! ## A listing that fails three times -/

theorem Lists.ends_unwritten {ns : String} {e : Provider.Error} {now : Timestamp}
    {mid : List (Exchange Answer)} (key : Resource.ObjectKey) (h : Lists t ns (.error e) mid)
    (hn : key.ns = ns) (hs : t.status = some (report t (.error e) now)) :
    Ends (body key).run (⟨.load key, .ok t⟩ :: (mid ++ [⟨.now, now⟩])) (.error (.provider e)) := by
  subst hn
  have hw : Ends (writeStatus t (report t (.error e) now)).run [] (.ok ()) := by
    unfold writeStatus
    rw [if_pos hs]
    exact .now
  refine ends_lift_bind.mpr ⟨.ok t, _, rfl, ?_⟩
  refine h.ends.try_bind ?_
  refine ends_lift_bind.mpr ⟨now, [], rfl, ?_⟩
  exact hw.try_bind (t := []) .now

theorem Lists.hears_unwritten {e : Provider.Error} {now : Timestamp} {ns : String}
    {mid : List (Exchange Answer)} (h : Lists t ns (.error e) mid) (event : Metadata)
    (hn : event.ns = some ns) (hs : t.status = some (report t (.error e) now)) :
    Hears (reconcile event) (⟨.load ⟨ns, event.anyName⟩, .ok t⟩ :: (mid ++ [⟨.now, now⟩,
      ⟨Question.note (.failed ⟨ns, event.anyName⟩ (Error.provider e).kind), ()⟩])) := by
  have hb := h.ends_unwritten ⟨ns, event.anyName⟩ rfl hs
  have ha : Asks (reconcile event) (⟨.load ⟨ns, event.anyName⟩, .ok t⟩ :: (mid ++ [⟨.now, now⟩]))
      (.note (.failed ⟨ns, event.anyName⟩ (Error.provider e).kind)) := by
    unfold reconcile
    rw [hn]
    have hx := hb.asks_bind (f := settle ⟨ns, event.anyName⟩) (t := []) .now
    rwa [List.append_nil] at hx
  have hh := ha.hears
    (x := ⟨Question.note (.failed ⟨ns, event.anyName⟩ (Error.provider e).kind), ()⟩)
  simpa using hh

theorem Prepares.agrees (hp : Prepares told t r') (hl : r'.listing = r.listing)
    (hg : r'.generation = r.generation) : Agrees r told := by
  intro t₁ r₁ h₁
  obtain ⟨-, rfl⟩ := hp.unique h₁
  exact ⟨hl, hg⟩

namespace Sample

def stale (status reason : String) : Team.Condition :=
  ⟨"SpecSynced", status, reason, "", "2023-01-01T00:00:00Z", none⟩

/-- Has two conditions of the pass's kind, and one of another between them. -/
def crowded : Team :=
  { fresh with
    status := some ⟨[stale "True" "SyncOK", ⟨"Paused", "False", "", "", "", none⟩,
      stale "False" "BackendError"], [⟨"t0", "Old"⟩]⟩ }

/-- What a pass is told that gets the listing of `failed` once more. -/
def toldAgain (now : Timestamp) : List (Exchange Answer) :=
  [⟨.load ⟨"apps", "tenants"⟩, .ok (after crowded failed "2")⟩,
    ⟨.listTeams "apps" "key-pair", failed.listing⟩, ⟨.now, now⟩,
    ⟨Question.note (.failed ⟨"apps", "tenants"⟩ "bridge"), ()⟩]

theorem kind_failed : (Error.provider .addressMissing).kind = "bridge" := by decide

theorem repeats_once {passes : List (List (Exchange Answer))} {s' : Filing} (now : Timestamp)
    (h : Repeats failed ⟨some (after crowded failed "2"), 1⟩ passes s') :
    Repeats failed ⟨some (after crowded failed "2"), 1⟩ (toldAgain now :: passes) s' := by
  have hl : Lists (after crowded failed "2") "apps" (.error .addressMissing)
      [⟨.listTeams "apps" "key-pair", .error .addressMissing⟩] :=
    lists (t := after crowded failed "2") rfl rfl
  have hp : Prepares (toldAgain now) (after crowded failed "2")
      ⟨some 1, .error .addressMissing, now⟩ :=
    ⟨rfl, "apps", ⟨"apps", "tenants"⟩, _, _, hl, rfl⟩
  have hs : (after crowded failed "2").status =
      some (report (after crowded failed "2") (.error .addressMissing) now) := by
    have he := hp.report_eq
    have hk : (after crowded failed "2").status = some (failed.report crowded.status) := rfl
    have hr := report_again failed ⟨some 1, .error .addressMissing, now⟩ rfl rfl
    rw [hk] at he ⊢
    rw [he, hr]
  have hh := hl.hears_unwritten metadata rfl hs
  rw [kind_failed] at hh
  refine .pass hh ?_ (hp.agrees rfl rfl) h
  exact .tell (.loaded rfl) (.tell .listed (.tell .clocked (.tell .noted .nil)))

end Sample

/-- A team with two conditions of one kind: a listing fails and is reported, fails again in the
morning and the evening, and there was one write. -/
theorem repeated_passes_write_nothing_failed : ∃ told s' s'',
    Hears (reconcile Sample.metadata) told ∧ Goes ⟨some Sample.crowded, 0⟩ told s' ∧
      Completes ⟨some Sample.crowded, 0⟩ s' told Sample.failed ∧
      Repeats Sample.failed s' [Sample.toldAgain Sample.morning,
        Sample.toldAgain Sample.evening] s'' ∧
      (s'' = s' ∧ ∀ told ∈ [Sample.toldAgain Sample.morning, Sample.toldAgain Sample.evening],
        ∀ x ∈ told, isWrite x = false) ∧
      s''.stored = some (Sample.after Sample.crowded Sample.failed "2") ∧ s''.accepted = 1 := by
  have hl : Lists Sample.crowded "apps" Sample.failed.listing
      [⟨.listTeams "apps" "key-pair", Sample.failed.listing⟩] :=
    Sample.lists (t := Sample.crowded) rfl rfl
  have hne : Sample.crowded.status ≠ some (Sample.failed.report Sample.crowded.status) := by
    intro he
    have hs := congrArg (fun st => (own st).map (·.status)) he
    exact absurd hs (by decide)
  have hk : Sample.after Sample.crowded Sample.failed "2" = { Sample.crowded with
      status := some (Sample.failed.report Sample.crowded.status)
      metadata := { Sample.crowded.metadata with resourceVersion := some "2" } } := rfl
  obtain ⟨told, hh, hg, hc⟩ := hl.completes Sample.metadata (n := 0) rfl rfl hne hk
  have hr := Sample.repeats_once Sample.morning (Sample.repeats_once Sample.evening .nil)
  exact ⟨told, _, _, hh, hg, hc, hr, repeated_passes_write_nothing hh hg hc hr, rfl, rfl⟩

end ClusterOperator.Reconcile.TeamPass
