import ClusterOperator.Proofs.Reconcile.Steering

/-!
# The course of the phase

A pass names phases in its plan, in the mark and in the promotion. Whatever
passes run side by side, the stored phase takes the steps of the table and no
others: at an accepted write the pass went by what is stored.
-/

namespace ClusterOperator.Reconcile

open Resource (Cluster ObjectKey)
open Store (merge versionOf withVersion)

/-- The phase stays, or takes a step of the table; it is `deleting` only on an
object that is to go. -/
def FollowsTable (older newer : Cluster) : Prop :=
  newer.phaseText = older.phaseText ∨ ∃ row ∈ Lifecycle.table,
    Phase.ofText? older.phaseText = some row.source ∧ newer.phaseText = row.target.text ∧
      (row.target = .deleting → newer.metadata.isDeleting)

/-! ## One write -/

theorem ne_deleting_of_ofText? {phase : Phase} {text : String}
    (h : Phase.ofText? text = some phase) (hn : text ≠ Phase.deleting.text) : phase ≠ .deleting := by
  rintro rfl
  exact hn (text_of_ofText? h nofun)

theorem deletion_row {phase : Phase} (h : phase ≠ .deleting) :
    ∃ row ∈ Lifecycle.table, row.source = phase ∧ row.target = .deleting := by
  revert h
  cases phase <;> decide

theorem followsTable_mark {c kept : Cluster} {phase : Phase}
    (hp : Phase.ofText? c.phaseText = some phase) (hn : c.phaseText ≠ Phase.deleting.text)
    (hk : kept.phaseText = Phase.deleting.text) (hd : kept.metadata.isDeleting) :
    FollowsTable c kept := by
  obtain ⟨row, hr, hs, ht⟩ := deletion_row (ne_deleting_of_ofText? hp hn)
  exact .inr ⟨row, hr, hs ▸ hp, ht ▸ hk, fun _ => hd⟩

theorem followsTable_step {c kept : Cluster} {phase : Phase} (event : Event) {row : Lifecycle.Step}
    (hp : Phase.ofText? c.phaseText = some phase) (hr : Lifecycle.step? phase event = some row)
    (hk : kept.phaseText = row.target.text) (hn : row.target ≠ .deleting) :
    FollowsTable c kept := by
  have hs := List.find?_some hr
  rw [decide_eq_true_eq] at hs
  exact .inr ⟨row, List.mem_of_find?_eq_some hr, hs.1 ▸ hp, hk, fun h => absurd h hn⟩

theorem followsTable_observed {c kept : Cluster} {d : Provider.ClusterDetail}
    (hp : Phase.ofText? c.phaseText = some .creating)
    (hk : kept.phaseText = promoted c.phaseText d) : FollowsTable c kept := by
  rw [promoted_eq] at hk
  by_cases hr : d.isReady
  · rw [if_pos hr] at hk
    exact followsTable_step .providerReady hp rfl hk (by decide)
  · rw [if_neg hr] at hk
    exact .inl hk

theorem followsTable_of_inquires {r : Store.Record} (hr : r.Sound) {s : Settings}
    {c stored sent : Cluster} {t : List (Exchange Answer)}
    (h : Inquires s c t (.replaceStatus sent)) (hf : Fits r.versions c t)
    (hs : stored ∈ r.versions) (hv : versionOf sent = versionOf stored) (v : String) :
    FollowsTable stored (withVersion (merge .status stored sent) v) := by
  cases hf.rewrites hr h hs hv with
  | entered he =>
    cases he with
    | pending _ hp => exact followsTable_step .finalizerAttached hp rfl rfl (by decide)
    | creating _ hp => exact followsTable_step .createAccepted hp rfl rfl (by decide)
    | deleting hd hp hn => exact followsTable_mark hp hn rfl hd
  | observed _ hp _ _ _ => exact followsTable_observed hp (observed_phaseText ..)

/-! ## Whole runs -/

/-- The phase stays, or is a later one. -/
def Onward (older newer : Cluster) : Prop :=
  newer.phaseText = older.phaseText ∨ ∃ p q, Phase.ofText? older.phaseText = some p ∧
    Phase.ofText? newer.phaseText = some q ∧ p.rank < q.rank

theorem rank_lt : ∀ row ∈ Lifecycle.table, row.source.rank < row.target.rank := by decide

theorem FollowsTable.onward {older newer : Cluster} (h : FollowsTable older newer) :
    Onward older newer := by
  rcases h with h | ⟨row, hr, hs, ht, -⟩
  · exact .inl h
  · exact .inr ⟨row.source, row.target, hs, by rw [ht, Phase.ofText?_text], rank_lt row hr⟩

theorem Onward.trans {a b c : Cluster} (h : Onward a b) (h' : Onward b c) : Onward a c := by
  rcases h with h | ⟨p, q, hp, hq, hl⟩
  · rcases h' with h' | ⟨p', q', hp', hq', hl'⟩
    · exact .inl (h'.trans h)
    · exact .inr ⟨p', q', h ▸ hp', hq', hl'⟩
  · rcases h' with h' | ⟨p', q', hp', hq', hl'⟩
    · exact .inr ⟨p, q, hp, h' ▸ hq, hl⟩
    · obtain rfl : q = p' := Option.some.inj (hq.symm.trans hp')
      exact .inr ⟨p, q', hp, hq', hl.trans hl'⟩

instance : Trans (fun newer older => Onward older newer) (fun newer older => Onward older newer)
    (fun newer older => Onward older newer) := ⟨fun h h' => h'.trans h⟩

theorem rank_le_deleting (phase : Phase) : phase.rank ≤ Phase.deleting.rank := by
  cases phase <;> decide

theorem Onward.stays_deleting {older newer : Cluster} (h : Onward older newer)
    (hd : older.phaseText = Phase.deleting.text) : newer.phaseText = Phase.deleting.text := by
  rcases h with h | ⟨p, q, hp, -, hl⟩
  · exact h.trans hd
  · rw [hd, Phase.ofText?_text] at hp
    obtain rfl := Option.some.inj hp
    exact absurd hl (Nat.not_lt.mpr (rank_le_deleting q))

section
variable {Q : Type} {A : Q → Type} {α σ : Type} {E : Environment A α σ}
  {dealing : Exchange A → Option Store.Dealing} {record : σ → Store.Record}
  {edits : Cluster → Cluster → Prop}

theorem Steered.course (hE : Steered E dealing record edits) {s : σ} {c : Cluster}
    (h₀ : record s = .start c) {w : Scene A α σ} (h : E.Runs (.start s) w) :
    (record w.state).versions.IsChain fun newer older => FollowsTable older newer := by
  have hs : (record s).Sound := h₀ ▸ Store.Record.sound_start c
  refine hE.chain (R := fun newer older => FollowsTable older newer) h₀ ?_ h
  intro w w' stored kept hw hstep hc hn _
  have hr := hE.sound hs hw
  have hg := hE.growth hs hw hstep
  rw [hn] at hg
  generalize hvs : kept :: (record w.state).versions = vs at hg
  cases hg with
  | none => exact absurd (congrArg List.length hvs) (Nat.succ_ne_self _)
  | @pass s c stored' sent t part v hi hf hc' hv =>
    obtain rfl : stored = stored' := Option.some.inj (hc.symm.trans hc')
    obtain rfl := List.head_eq_of_cons_eq hvs
    cases part with
    | main => exact .inl rfl
    | status => exact followsTable_of_inquires hr hi hf (hr.current_mem hc) hv v
  | @other stored' kept' hc' _ hk _ =>
    obtain rfl : stored = stored' := Option.some.inj (hc.symm.trans hc')
    obtain rfl := List.head_eq_of_cons_eq hvs
    exact .inl (by simp only [Cluster.phaseText, hk])

theorem Steered.onward (hE : Steered E dealing record edits) {s : σ} {c : Cluster}
    (h₀ : record s = .start c) {w : Scene A α σ} (h : E.Runs (.start s) w) :
    (record w.state).versions.Pairwise fun newer older => Onward older newer := by
  have hc : (record w.state).versions.IsChain fun newer older => Onward older newer :=
    (hE.course h₀ h).imp fun _ _ => FollowsTable.onward
  exact hc.pairwise

/-- What is stored is at least as far on as any version. -/
theorem Steered.onward_current (hE : Steered E dealing record edits) {s : σ} {c : Cluster}
    (h₀ : record s = .start c) {w : Scene A α σ} (h : E.Runs (.start s) w) {v b : Cluster}
    (hv : v ∈ (record w.state).versions) (hb : (record w.state).current = some b) :
    Onward v b := by
  have hs : (record s).Sound := h₀ ▸ Store.Record.sound_start c
  have hl := (hE.sound hs h).latest b hb
  have ho := hE.onward h₀ h
  generalize (record w.state).versions = vs at hv hl ho
  cases vs with
  | nil => cases hv
  | cons newest vs =>
    obtain rfl : newest = b := Option.some.inj hl
    rcases List.mem_cons.mp hv with rfl | hv
    · exact .inl rfl
    · exact List.rel_of_pairwise_cons ho hv

/-- What a pass loads that was started after there was a version is no earlier
than this version. -/
theorem Steered.later_loads (hE : Steered E dealing record edits) {s : σ} {c : Cluster}
    (h₀ : record s = .start c) {u w : Scene A α σ} (hu : E.Runs (.start s) u) {v : Cluster}
    (hv : v ∈ (record u.state).versions) (h : (Store.upToDate E dealing record).Runs u w) {i : Nat}
    (hi : u.errands.length ≤ i) {e : Errand A α} (he : w.errands[i]? = some e) {x : Exchange A}
    (hx : x ∈ e.told) {b : Cluster} (hd : dealing x = some (.load (.ok b))) : Onward v b := by
  induction h generalizing e with
  | refl =>
    rw [List.getElem?_eq_none hi] at he
    cases he
  | @tail w w' huw hstep ih =>
    have huw' := Store.runs_of_upToDate huw
    rcases hstep.errand_cases he with he | ⟨-, hnil⟩ | ⟨y, told, ht, he, htold⟩
    · exact ih he hx
    · rw [hnil] at hx
      cases hx
    · rw [htold] at hx
      rcases List.mem_append.mp hx with hx | hx
      · exact ih he hx
      · -- the load itself, which reads what is stored
        obtain rfl := List.mem_singleton.mp hx
        have hvw := (hE.runs_suffix huw').subset hv
        exact hE.onward_current h₀ (hu.trans huw') hvw (ht.answers.2 b hd)

/-- A write to a stored object that is accepted, and makes it `creating`. -/
def BecomesCreating (r r' : Store.Record) : Prop :=
  ∃ stored kept, r.current = some stored ∧ r'.versions = kept :: r.versions ∧
    stored.phaseText ≠ Phase.creating.text ∧ kept.phaseText = Phase.creating.text

theorem Steered.becomesCreating (hE : Steered E dealing record edits) {s : σ} {c : Cluster}
    (h₀ : record s = .start c) (hc : c.phaseText ≠ Phase.creating.text) {w : Scene A α σ}
    (h : E.Runs (.start s) w)
    (hw : ∃ v ∈ (record w.state).versions, v.phaseText = Phase.creating.text) :
    ∃ u i x u', E.Runs (.start s) u ∧ E.Turn u i x u' ∧ E.Runs u' w ∧
      BecomesCreating (record u.state) (record u'.state) := by
  have hs : (record s).Sound := h₀ ▸ Store.Record.sound_start c
  have hn : ¬ ∃ v ∈ (record s).versions, v.phaseText = Phase.creating.text := by
    rw [h₀]
    rintro ⟨v, hv, hp⟩
    exact hc (List.mem_singleton.mp hv ▸ hp)
  obtain ⟨u, u', hu, hstep, hw, hnu, hpu⟩ := Environment.Runs.exists_first
    (P := fun w => ∃ v ∈ (record w.state).versions, v.phaseText = Phase.creating.text) h hn hw
  have hr := hE.sound hs hu
  -- the step makes the version that is `creating`, and an edit makes none
  rcases hE.version_cases hstep with hn | ⟨stored, kept, hc, hn, hk⟩
  · exact absurd (hn ▸ hpu) hnu
  have old : stored.phaseText ≠ Phase.creating.text := fun hp => hnu ⟨_, hr.current_mem hc, hp⟩
  have new : kept.phaseText = Phase.creating.text := by
    obtain ⟨v, hv, hp⟩ := hpu
    rcases List.mem_cons.mp (hn ▸ hv) with rfl | hv
    · exact hp
    · exact absurd ⟨v, hv, hp⟩ hnu
  rcases hk with ⟨i, x, ht⟩ | hk
  · exact ⟨u, i, x, u', hu, ht, hw, stored, kept, hc, hn, old, new⟩
  · exact absurd (by simpa only [Cluster.phaseText, hk] using new) old

end

/-- Any number of passes over one object, with other writers that leave its
status alone, and whatever the provider answers. -/
def passes (key : ObjectKey) (edits : Cluster → Cluster → Prop) :
    Environment Answer (Except Error Action) (Store.Record × Unit) :=
  Store.surroundings (PassOver key) dealing edits fun _ _ _ => True

/-- What is stored is the latest of all versions that there have been; each
follows the table after the one before it, and none goes back. -/
theorem versions_follow_table {key : ObjectKey} {edits : Cluster → Cluster → Prop} {c : Cluster}
    {w : Scene Answer (Except Error Action) (Store.Record × Unit)}
    (h : (passes key edits).Runs (.start (.start c, ())) w) :
    (∀ stored, w.state.1.current = some stored → w.state.1.versions.head? = some stored) ∧
      (w.state.1.versions.IsChain fun newer older => FollowsTable older newer) ∧
      w.state.1.versions.Pairwise fun newer older => Onward older newer ∧
        (older.phaseText = Phase.deleting.text → newer.phaseText = Phase.deleting.text) := by
  have hE : Steered (passes key edits) dealing Prod.fst edits := steered_surroundings
  have hc := hE.course rfl h
  refine ⟨(hE.sound (Store.Record.sound_start c) h).latest, hc, ?_⟩
  have ho : w.state.1.versions.IsChain fun newer older => Onward older newer :=
    hc.imp fun _ _ => FollowsTable.onward
  exact ho.pairwise.imp fun h => ⟨h, h.stays_deleting⟩

theorem versions_follow_table_setup : ∃ w,
    (passes Sample.key fun _ _ => False).Runs (.start (.start Sample.cluster, ())) w ∧
      w.state.1.versions.map (·.phaseText) = ["pending", "", ""] ∧
      w.state.1.versions.IsChain fun newer older => FollowsTable older newer := by
  let c₀ := Sample.cluster
  let c₁ := withVersion (guarded c₀) "2"
  let c₂ := Sample.inPhase c₁ .pending "3"
  have h₀ : (passes Sample.key fun _ _ => False).Runs (.start (.start c₀, ()))
      ⟨(.start c₀, ()), [⟨Sample.pass, []⟩]⟩ := Environment.Runs.starts .refl Sample.passOver
  have h₁ := h₀.turns 0 ⟨.load Sample.key, .ok c₀⟩ (.start c₀, ()) rfl .now
    (Store.deals_answers rfl (.read List.mem_cons_self) trivial)
  have h₂ := h₁.turns 0 ⟨.replaceMetadata (guarded c₀), .ok c₁⟩ (⟨some c₁, [c₁, c₀]⟩, ()) rfl
    (.later .now) (Store.deals_answers rfl (.accepted ⟨c₀, "2", rfl, rfl, by decide, rfl⟩) trivial)
  have h₃ := h₂.turns 0 ⟨.now, Sample.now⟩ (⟨some c₁, [c₁, c₀]⟩, ()) rfl (.later (.later .now))
    (Store.apart_answers rfl trivial)
  have h₄ := h₃.turns 0 ⟨.replaceStatus (entered c₁ .pending Sample.now), .ok c₂⟩
    (⟨some c₂, [c₂, c₁, c₀]⟩, ()) rfl (.later (.later (.later .now)))
    (Store.deals_answers rfl (.accepted ⟨c₁, "3", rfl, rfl, by decide, rfl⟩) trivial)
  exact ⟨_, h₄, rfl, (versions_follow_table h₄).2.1⟩

end ClusterOperator.Reconcile
