import Mathlib.Data.List.Nodup
import ClusterOperator.Provider.Cache

/-!
# Counting who shares a session

Beside a cache stands the list of those who come to it, with the share that each of
them has. The counts of the cache are counts of that list: taking hold gives a share
to someone who had none, letting go takes it away, and the sweep leaves every session
alone that somebody has a share of.
-/

namespace ClusterOperator.Provider.Cache

/-- What somebody took hold of, and under which label. -/
structure Share where
  label : String
  session : SessionId
  deriving DecidableEq

def Share.isOf (session : SessionId) : Option Share → Bool
  | some s => s.session = session
  | none => false

theorem Share.isOf_iff {session : SessionId} {share : Option Share} :
    Share.isOf session share ↔ ∃ label, share = some ⟨label, session⟩ := by
  cases share with
  | none => simp [Share.isOf]
  | some s =>
    obtain ⟨label, session'⟩ := s
    simp [Share.isOf]

section
variable {shares : List (Option Share)} {i : Nat}

theorem countP_set_some (hi : shares[i]? = some none) (s : Share) (session : SessionId) :
    (shares.set i (some s)).countP (Share.isOf session) =
      shares.countP (Share.isOf session) + if s.session = session then 1 else 0 := by
  obtain ⟨hlt, hi⟩ := List.getElem?_eq_some_iff.mp hi
  rw [List.countP_set hlt, hi]
  simp [Share.isOf]

theorem countP_set_none {s : Share} (hi : shares[i]? = some (some s)) (session : SessionId) :
    (shares.set i none).countP (Share.isOf session) =
      shares.countP (Share.isOf session) - if s.session = session then 1 else 0 := by
  obtain ⟨hlt, hi⟩ := List.getElem?_eq_some_iff.mp hi
  rw [List.countP_set hlt, hi]
  simp [Share.isOf]

end

/-! ## Entries -/

namespace Entry

/-- The entry with one holder more, if it has this label. -/
def join (label : String) (e : Entry) : Entry :=
  if e.label = label then { e with holders := e.holders + 1 } else e

/-- The entry with one holder less, if it is for this session. -/
def leave (session : SessionId) (e : Entry) : Entry :=
  if e.session = session then { e with holders := e.holders - 1 } else e

variable {label : String} {session : SessionId} {e : Entry}

@[simp] theorem join_label : (e.join label).label = e.label := by
  unfold join
  split <;> rfl

@[simp] theorem join_session : (e.join label).session = e.session := by
  unfold join
  split <;> rfl

@[simp] theorem leave_label : (e.leave session).label = e.label := by
  unfold leave
  split <;> rfl

@[simp] theorem leave_session : (e.leave session).session = e.session := by
  unfold leave
  split <;> rfl

theorem join_holders : (e.join label).holders = e.holders + if e.label = label then 1 else 0 := by
  unfold join
  split <;> rfl

theorem leave_holders : (e.leave session).holders = e.holders - if e.session = session then 1 else 0 := by
  unfold leave
  split <;> rfl

end Entry

variable {c : Cache} {label : String} {session fresh : SessionId} {isInactive : SessionId → Bool}
  {e : Entry} {shares : List (Option Share)} {i : Nat}

theorem attach_known (h : c.find? label = some e) :
    c.attach label fresh = (⟨e.session, true⟩, ⟨c.entries.map (Entry.join label)⟩) := by
  unfold attach
  rw [h]
  rfl

theorem attach_new (h : c.find? label = none) :
    c.attach label fresh = (⟨fresh, false⟩, ⟨c.entries ++ [⟨label, fresh, 1⟩]⟩) := by
  unfold attach
  rw [h]

/-- Taking hold gives no session up. -/
theorem exists_mem_attach (he : e ∈ c.entries) :
    ∃ e' ∈ (c.attach label fresh).2.entries, e'.session = e.session := by
  cases hf : c.find? label with
  | some e₀ =>
    rw [attach_known hf]
    exact ⟨e.join label, List.mem_map_of_mem he, Entry.join_session⟩
  | none =>
    rw [attach_new hf]
    exact ⟨e, List.mem_append_left _ he, rfl⟩

theorem mem_release : e ∈ (c.release session isInactive).entries ↔
    (∃ e₀ ∈ c.entries, e = e₀.leave session) ∧ isIdle isInactive e = false := by
  unfold release
  rw [List.mem_filter, List.mem_map, Bool.not_eq_true']
  refine and_congr_left fun _ => exists_congr fun e₀ => and_congr_right fun _ => ?_
  exact eq_comm

/-! ## The ledger -/

/-- The counts of a cache are right, for those with these shares. Sessions up to a
bound were made so far. -/
structure Ledger (c : Cache) (bound : SessionId) (shares : List (Option Share)) : Prop where
  labels : (c.entries.map (·.label)).Nodup
  sessions : (c.entries.map (·.session)).Nodup
  made : ∀ e ∈ c.entries, e.session < bound
  counted : ∀ e ∈ c.entries, e.holders = shares.countP (Share.isOf e.session)
  kept : ∀ s, some s ∈ shares → ∃ e ∈ c.entries, e.label = s.label ∧ e.session = s.session

namespace Ledger

variable {bound : SessionId}

theorem empty : Ledger .empty bound [] := ⟨by simp [Cache.empty], by simp [Cache.empty], nofun, nofun, nofun⟩

theorem eq_of_label (h : Ledger c bound shares) {e e' : Entry} (he : e ∈ c.entries)
    (he' : e' ∈ c.entries) (hl : e.label = e'.label) : e = e' :=
  List.inj_on_of_nodup_map h.labels he he' hl

theorem eq_of_session (h : Ledger c bound shares) {e e' : Entry} (he : e ∈ c.entries)
    (he' : e' ∈ c.entries) (hs : e.session = e'.session) : e = e' :=
  List.inj_on_of_nodup_map h.sessions he he' hs

theorem contains (h : Ledger c bound shares) {s : Share} (hs : some s ∈ shares) :
    c.contains s.session := by
  obtain ⟨e, he, -, hes⟩ := h.kept s hs
  unfold Cache.contains holders?
  rw [Option.isSome_map, List.find?_isSome]
  exact ⟨e, he, decide_eq_true hes⟩

/-- One session to a label. -/
theorem same_session (h : Ledger c bound shares) {s s' : Share} (hs : some s ∈ shares)
    (hs' : some s' ∈ shares) (hl : s.label = s'.label) : s.session = s'.session := by
  obtain ⟨e, he, hel, hes⟩ := h.kept s hs
  obtain ⟨e', he', hel', hes'⟩ := h.kept s' hs'
  have hee : e = e' := h.eq_of_label he he' (by rw [hel, hel', hl])
  rw [← hes, ← hes', hee]

theorem countP_pos {s : Share} (hs : some s ∈ shares) : 0 < shares.countP (Share.isOf s.session) :=
  List.countP_pos_iff.mpr ⟨some s, hs, decide_eq_true rfl⟩

/-- Nobody has a share of a session that is yet to be made. -/
theorem countP_fresh (h : Ledger c bound shares) (hb : bound ≤ session) :
    shares.countP (Share.isOf session) = 0 := by
  refine List.countP_eq_zero.mpr fun share hs hof => ?_
  obtain ⟨label, rfl⟩ := Share.isOf_iff.mp hof
  obtain ⟨e, he, -, hes⟩ := h.kept _ hs
  have hlt := h.made e he
  rw [hes] at hlt
  exact Nat.lt_irrefl _ (Nat.lt_of_lt_of_le hlt hb)

theorem mono {bound' : SessionId} (h : Ledger c bound shares) (hb : bound ≤ bound') :
    Ledger c bound' shares :=
  ⟨h.labels, h.sessions, fun e he => Nat.lt_of_lt_of_le (h.made e he) hb, h.counted, h.kept⟩

/-- Somebody comes, who has no share yet. -/
theorem comes (h : Ledger c bound shares) : Ledger c bound (shares ++ [none]) where
  labels := h.labels
  sessions := h.sessions
  made := h.made
  counted e he := by
    rw [h.counted e he, List.countP_append]
    rfl
  kept s hs := by
    rcases List.mem_append.mp hs with hs | hs
    · exact h.kept s hs
    · simp at hs

theorem join (h : Ledger c bound shares) (hi : shares[i]? = some none) (he : e ∈ c.entries) :
    Ledger ⟨c.entries.map (Entry.join e.label)⟩ bound
      (shares.set i (some ⟨e.label, e.session⟩)) where
  labels := by simpa [List.map_map, Function.comp_def] using h.labels
  sessions := by simpa [List.map_map, Function.comp_def] using h.sessions
  made e' he' := by
    obtain ⟨e₀, he₀, rfl⟩ := List.mem_map.mp he'
    rw [Entry.join_session]
    exact h.made e₀ he₀
  counted e' he' := by
    obtain ⟨e₀, he₀, rfl⟩ := List.mem_map.mp he'
    -- its label tells the session, and its session the label
    have hiff : e₀.label = e.label ↔ e.session = e₀.session :=
      ⟨fun hl => by rw [h.eq_of_label he₀ he hl], fun hs => by rw [h.eq_of_session he he₀ hs]⟩
    rw [Entry.join_session, countP_set_some hi, Entry.join_holders, h.counted e₀ he₀]
    simp only [hiff]
  kept s hs := by
    obtain ⟨e₀, he₀, hl, hs⟩ : ∃ e₀ ∈ c.entries, e₀.label = s.label ∧ e₀.session = s.session := by
      rcases List.mem_or_eq_of_mem_set hs with hs | hs
      · exact h.kept s hs
      · obtain rfl := Option.some.inj hs
        exact ⟨e, he, rfl, rfl⟩
    exact ⟨e₀.join e.label, List.mem_map_of_mem he₀, by simpa using hl, by simpa using hs⟩

theorem insert (h : Ledger c bound shares) (hi : shares[i]? = some none)
    (hn : ∀ e ∈ c.entries, e.label ≠ label) (hfresh : bound ≤ fresh) :
    Ledger ⟨c.entries ++ [⟨label, fresh, 1⟩]⟩ (fresh + 1) (shares.set i (some ⟨label, fresh⟩)) where
  labels := by
    rw [List.map_append, List.map_singleton]
    refine List.nodup_append.mpr ⟨h.labels, List.nodup_singleton _, fun a ha b hb => ?_⟩
    obtain ⟨e, he, rfl⟩ := List.mem_map.mp ha
    obtain rfl := List.mem_singleton.mp hb
    exact hn e he
  sessions := by
    rw [List.map_append, List.map_singleton]
    refine List.nodup_append.mpr ⟨h.sessions, List.nodup_singleton _, fun a ha b hb => ?_⟩
    obtain ⟨e, he, rfl⟩ := List.mem_map.mp ha
    obtain rfl := List.mem_singleton.mp hb
    exact Nat.ne_of_lt (Nat.lt_of_lt_of_le (h.made e he) hfresh)
  made e he := by
    rcases List.mem_append.mp he with he | he
    · exact Nat.lt_succ_of_lt (Nat.lt_of_lt_of_le (h.made e he) hfresh)
    · obtain rfl := List.mem_singleton.mp he
      exact Nat.lt_succ_self _
  counted e he := by
    rw [countP_set_some hi]
    rcases List.mem_append.mp he with he | he
    · have hne : ¬ fresh = e.session := Nat.ne_of_gt (Nat.lt_of_lt_of_le (h.made e he) hfresh)
      rw [if_neg hne, h.counted e he]
      rfl
    · obtain rfl := List.mem_singleton.mp he
      rw [if_pos rfl, h.countP_fresh hfresh]
  kept s hs := by
    rcases List.mem_or_eq_of_mem_set hs with hs | hs
    · obtain ⟨e, he, hes⟩ := h.kept s hs
      exact ⟨e, List.mem_append_left _ he, hes⟩
    · obtain rfl := Option.some.inj hs
      exact ⟨_, List.mem_append_right _ List.mem_cons_self, rfl, rfl⟩

theorem attach (h : Ledger c bound shares) (hi : shares[i]? = some none) (label : String)
    (hb : bound ≤ fresh) :
    Ledger (c.attach label fresh).2
      (if (c.attach label fresh).1.known then bound else fresh + 1)
      (shares.set i (some ⟨label, (c.attach label fresh).1.session⟩)) := by
  cases hf : c.find? label with
  | some e =>
    have he : e ∈ c.entries := List.mem_of_find?_eq_some hf
    obtain rfl : e.label = label := by simpa using List.find?_some hf
    rw [attach_known hf]
    exact h.join hi he
  | none =>
    rw [attach_new hf]
    refine h.insert hi (fun e he => ?_) hb
    simpa using List.find?_eq_none.mp hf e he

/-- The counts are right before the sweep. -/
theorem counted_leave {s : Share} (h : Ledger c bound shares) (hi : shares[i]? = some (some s))
    (he : e ∈ c.entries) :
    (e.leave s.session).holders = (shares.set i none).countP (Share.isOf e.session) := by
  rw [countP_set_none hi, Entry.leave_holders, h.counted e he]
  simp only [eq_comm]

theorem release {s : Share} (h : Ledger c bound shares) (hi : shares[i]? = some (some s)) :
    Ledger (c.release s.session isInactive) bound (shares.set i none) := by
  have sub : ∀ {α : Type} (f : Entry → α), (∀ e, f (e.leave s.session) = f e) →
      (c.entries.map f).Nodup → ((c.release s.session isInactive).entries.map f).Nodup := by
    intro α f hf hn
    refine hn.sublist ?_
    have hm : (c.entries.map (Entry.leave s.session)).map f = c.entries.map f := by
      rw [List.map_map]
      exact List.map_congr_left fun e _ => hf e
    rw [← hm]
    exact (List.filter_sublist).map f
  refine ⟨sub _ (fun _ => Entry.leave_label) h.labels, sub _ (fun _ => Entry.leave_session) h.sessions,
    ?_, ?_, ?_⟩
  · intro e he
    obtain ⟨⟨e₀, he₀, rfl⟩, -⟩ := mem_release.mp he
    rw [Entry.leave_session]
    exact h.made e₀ he₀
  · intro e he
    obtain ⟨⟨e₀, he₀, rfl⟩, -⟩ := mem_release.mp he
    rw [Entry.leave_session]
    exact h.counted_leave hi he₀
  · intro s' hs'
    have hs : some s' ∈ shares := (List.mem_or_eq_of_mem_set hs').resolve_right nofun
    obtain ⟨e, he, hl, hes⟩ := h.kept s' hs
    refine ⟨e.leave s.session, mem_release.mpr ⟨⟨e, he, rfl⟩, ?_⟩, by simpa using hl, by simpa using hes⟩
    -- it is held, so it is not idle
    have hpos := countP_pos hs'
    rw [← hes, ← h.counted_leave hi he] at hpos
    simp [isIdle, Nat.ne_of_gt hpos]

end Ledger

end ClusterOperator.Provider.Cache
