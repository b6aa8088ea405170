import ClusterOperator.Proofs.Program.Scene
import ClusterOperator.Proofs.Provider.Provenance
import ClusterOperator.Proofs.Provider.Sharing
import ClusterOperator.Proofs.Provider.Tenure

/-!
# Tenants of one cache

Clients are built, make calls and are dropped at will, and all the while their sessions log in,
renew and run out, as sources yield what they like. Those who share a session came to it
by one label, but log in with whatever the source of one of them yields by then.
-/

namespace ClusterOperator.Provider

/-- A session is the one under the label, or a new one if there was none. -/
theorem Cache.attach_cases {c cache : Cache} {label : String} {fresh : SessionId} {hold : Cache.Hold}
    (h : c.attach label fresh = (hold, cache)) :
    (∃ entry ∈ c.entries, entry.label = label ∧ hold = ⟨entry.session, true⟩ ∧
        cache = ⟨c.entries.map (Entry.join label)⟩) ∨
      c.find? label = none ∧ hold = ⟨fresh, false⟩ ∧
        cache = ⟨c.entries ++ [⟨label, fresh, 1⟩]⟩ := by
  cases hf : c.find? label with
  | some entry =>
    rw [attach_known hf] at h
    obtain ⟨rfl, rfl⟩ := Prod.mk.inj h
    exact .inl ⟨entry, List.mem_of_find?_eq_some hf, by simpa using List.find?_some hf, rfl, rfl⟩
  | none =>
    rw [attach_new hf] at h
    obtain ⟨rfl, rfl⟩ := Prod.mk.inj h
    exact .inr ⟨rfl, rfl, rfl⟩

namespace Tenancy

open Program Environment

variable {S : Type}

/-! ## What is shared -/

structure Common (S : Type) where
  cache : Cache
  /-- Those below the bound were opened so far. -/
  sessions : SessionId → Traffic S
  bound : SessionId
  log : List (Fact S)

namespace Common

def put (w : Common S) (id : SessionId) (t : Traffic S) : Common S :=
  { w with sessions := fun id' => if id' = id then t else w.sessions id' }

def record (w : Common S) (facts : List (Fact S)) : Common S := { w with log := facts ++ w.log }

variable {w : Common S} {id id' : SessionId} {t : Traffic S} {facts : List (Fact S)}

theorem put_sessions : (w.put id t).sessions id' = if id' = id then t else w.sessions id' := rfl

@[simp] theorem put_cache : (w.put id t).cache = w.cache := rfl
@[simp] theorem put_bound : (w.put id t).bound = w.bound := rfl
@[simp] theorem put_log : (w.put id t).log = w.log := rfl
@[simp] theorem record_cache : (w.record facts).cache = w.cache := rfl
@[simp] theorem record_sessions : (w.record facts).sessions = w.sessions := rfl
@[simp] theorem record_bound : (w.record facts).bound = w.bound := rfl
@[simp] theorem record_log : (w.record facts).log = facts ++ w.log := rfl

def isInactive (w : Common S) (id : SessionId) : Bool :=
  (w.sessions id).session.state = .inactive

end Common

variable (settings : SessionSettings)

/-- What a client is told. A ping and a check may be answered at any time: the logins that
they bring about are those of the session's traffic. -/
inductive Answers : Common S → Exchange (Answer (S := S)) → Common S → Prop
  | read {w : Common S} {source : S} {r : Except CredentialError Credential} :
    Answers w ⟨.lookUp (.read source), r⟩ (w.record (Fact.ofRead source r))
  | join {w : Common S} {label endpoint : String} {source : S} {hold : Cache.Hold} {cache : Cache} :
    w.cache.attach label w.bound = (hold, cache) → hold.known →
    Answers w ⟨.lookUp (.attach label endpoint source), hold⟩ { w with cache := cache }
  | opens {w : Common S} {label endpoint : String} {source : S} {hold : Cache.Hold} {cache : Cache}
    (now : Instant) : w.cache.attach label w.bound = (hold, cache) → hold.known = false →
    Answers w ⟨.lookUp (.attach label endpoint source), hold⟩
      { w.put w.bound (.start (.opened settings now endpoint source)) with
        cache := cache
        bound := w.bound + 1 }
  | sourceOf {w : Common S} {id : SessionId} :
    Answers w ⟨.lookUp (.sourceOf id), (w.sessions id).session.source⟩ w
  | replaceSource {w : Common S} {id : SessionId} {source : S} {t : Traffic S} :
    Traffic.Step settings (w.sessions id) (.replaced source) t →
    Answers w ⟨.lookUp (.replaceSource id source), ()⟩ (w.put id t)
  | ping {w : Common S} {id : SessionId} : Answers w ⟨.lookUp (.ping id), ()⟩ w
  | check {w : Common S} {c : Client} :
    Answers w ⟨.call c .check, (w.sessions c.session).session.state⟩ w
  | state {w : Common S} {c : Client} :
    Answers w ⟨.call c .state, (w.sessions c.session).session.state⟩ w
  | send {w : Common S} {c : Client} {r : Client.Request} {t : Traffic S}
    {reply : Except Error Http.Response} (now : Instant) :
    Traffic.Step settings (w.sessions c.session) (.used now) t →
    Answers w ⟨.call c (.send r), reply⟩ ((w.put c.session t).record
      [.sent (c.onWire (w.sessions c.session).session.token r)])
  | release {w : Common S} {id : SessionId} : Answers w ⟨.release id, ()⟩
      { w with cache := w.cache.release id w.isInactive }

inductive Drifts : Common S → Common S → Prop
  | session {w : Common S} {id : SessionId} {e : Traffic.Event S} {t : Traffic S} : id < w.bound →
    (∀ source, e ≠ .replaced source) → Traffic.Step settings (w.sessions id) e t →
    Drifts w ((w.put id t).record ((w.sessions id).facts id e))

variable (S) in
def tenants [DecidableEq S] : Environment (Answer (S := S)) (Except Error Client) (Common S) where
  starts p := ∃ (s : ClientSettings S) (work : Client → Program Client.Answer Unit), p = s.tenure work
  answers := Answers settings
  drifts := Drifts settings

abbrev Tenants (S : Type) := Scene (Answer (S := S)) (Except Error Client) (Common S)

def vacant (w : Traffic S) : Tenants S := .start ⟨.empty, fun _ => w, 0, []⟩

/-- Somebody who holds the session came to it with this source. -/
def HeldWith (es : List (Errand (Answer (S := S)) (Except Error Client))) (id : SessionId)
    (source : S) : Prop :=
  ∃ e ∈ es, ∃ endpoint credential, Holds id endpoint source credential e.told

/-- What is known of sessions and of those who hold them. -/
structure Orderly (w : Tenants S) : Prop where
  sourced : ∀ id < w.state.bound,
    Traffic.Sourced (HeldWith w.errands id) w.state.log id (w.state.sessions id)
  opened : ∀ entry ∈ w.state.cache.entries, entry.session < w.state.bound
  distinct : ∀ entry ∈ w.state.cache.entries, ∀ entry' ∈ w.state.cache.entries,
    entry.session = entry'.session → entry.label = entry'.label
  read : ∀ e ∈ w.errands, ∀ source credential,
    ⟨.lookUp (.read source), .ok credential⟩ ∈ e.told → .yielded source credential ∈ w.state.log
  held : ∀ e ∈ w.errands, ∀ id endpoint source credential,
    Holds id endpoint source credential e.told → id < w.state.bound ∧
      ∀ entry ∈ w.state.cache.entries, entry.session = id →
        entry.label = sessionLabel endpoint credential
  alike : ∀ e ∈ w.errands, ∀ e' ∈ w.errands, ∀ id endpoint endpoint' source source' credential
    credential', Holds id endpoint source credential e.told →
    Holds id endpoint' source' credential' e'.told →
    sessionLabel endpoint credential = sessionLabel endpoint' credential'

theorem orderly_vacant {t : Traffic S} : Orderly (vacant t) :=
  ⟨fun _ h => absurd h (Nat.not_lt_zero _), nofun, nofun, nofun, nofun, nofun⟩

variable {settings} {w w' : Tenants S} {i : Nat} {x : Exchange (Answer (S := S))}
  {id : SessionId} {endpoint : String} {source : S} {credential : Credential}

/-! ## What a step does to what is shared -/

/-- What all steps keep but those that open a session. -/
structure Keeps (w w' : Tenants S) : Prop where
  bound : w'.state.bound = w.state.bound
  log : ∀ f ∈ w.state.log, f ∈ w'.state.log
  entries : ∀ entry' ∈ w'.state.cache.entries, ∃ entry ∈ w.state.cache.entries,
    entry.label = entry'.label ∧ entry.session = entry'.session
  sourced : ∀ id, Traffic.Sourced (HeldWith w.errands id) w.state.log id (w.state.sessions id) →
    Traffic.Sourced (HeldWith w.errands id) w'.state.log id (w'.state.sessions id)

/-- A session is opened under a label that had none. -/
def Opens (settings : SessionSettings) (w w' : Tenants S) : Prop :=
  ∃ label endpoint source now, w.state.cache.find? label = none ∧
    HeldWith w'.errands w.state.bound source ∧ w'.state =
      { w.state.put w.state.bound (.start (.opened settings now endpoint source)) with
        cache := ⟨w.state.cache.entries ++ [⟨label, w.state.bound, 1⟩]⟩
        bound := w.state.bound + 1 }

theorem Keeps.of_record (facts : List (Fact S)) (hw : w'.state = w.state.record facts) :
    Keeps w w' := by
  have hlog : ∀ f ∈ w.state.log, f ∈ w'.state.log := by
    rw [hw]
    exact fun f hf => List.mem_append_right _ hf
  refine ⟨by rw [hw, Common.record_bound], hlog, fun entry he => ?_, fun id hs => ?_⟩
  · rw [hw, Common.record_cache] at he
    exact ⟨entry, he, rfl, rfl⟩
  · rw [hw]
    exact hs.mono (fun _ hp => hp) fun f hf => List.mem_append_right _ hf

theorem Keeps.of_cache {cache : Cache} (hw : w'.state = { w.state with cache := cache })
    (hc : ∀ entry' ∈ cache.entries, ∃ entry ∈ w.state.cache.entries,
      entry.label = entry'.label ∧ entry.session = entry'.session) : Keeps w w' := by
  refine ⟨by rw [hw], ?_, ?_, fun id hs => ?_⟩
  · rw [hw]
    exact fun f hf => hf
  · rw [hw]
    exact hc
  · rw [hw]
    exact hs

theorem Keeps.of_step {e : Traffic.Event S} {t : Traffic S} (facts : List (Fact S))
    (hs : Traffic.Step settings (w.state.sessions id) e t)
    (hr : ∀ source, e = .replaced source → HeldWith w.errands id source)
    (hf : ∀ f ∈ (w.state.sessions id).facts id e, f ∈ facts)
    (hw : w'.state = (w.state.put id t).record facts) : Keeps w w' := by
  refine ⟨by rw [hw, Common.record_bound, Common.put_bound], ?_, ?_, fun id' h => ?_⟩
  · rw [hw, Common.record_log, Common.put_log]
    exact fun f hf => List.mem_append_right _ hf
  · rw [hw, Common.record_cache, Common.put_cache]
    exact fun entry he => ⟨entry, he, rfl, rfl⟩
  · rw [hw]
    simp only [Common.record_log, Common.put_log, Common.record_sessions, Common.put_sessions]
    by_cases hid : id' = id
    · subst hid
      rw [if_pos rfl]
      refine (hs.sourced h hr).mono (fun _ hp => hp) fun f hm => ?_
      rcases List.mem_append.mp hm with hm | hm
      · exact List.mem_append_left _ (hf f hm)
      · exact List.mem_append_right _ hm
    · rw [if_neg hid]
      exact h.mono (fun _ hp => hp) fun f hm => List.mem_append_right _ hm

theorem mem_heldWith {e : Errand (Answer (S := S)) (Except Error Client)} (he : e ∈ w.errands)
    (h : Holds id endpoint source credential e.told) : HeldWith w.errands id source :=
  ⟨e, he, endpoint, credential, h⟩

theorem Opens.entry_cases (h : Opens settings w w') {entry' : Cache.Entry}
    (he : entry' ∈ w'.state.cache.entries) :
    entry' ∈ w.state.cache.entries ∨ entry'.session = w.state.bound := by
  obtain ⟨label, _, _, _, -, -, hst⟩ := h
  rw [hst] at he
  rcases List.mem_append.mp he with he | he
  · exact .inl he
  · obtain rfl := List.mem_singleton.mp he
    exact .inr rfl

theorem Opens.bound (h : Opens settings w w') : w'.state.bound = w.state.bound + 1 := by
  obtain ⟨_, _, _, _, -, -, hst⟩ := h
  rw [hst]

theorem Orderly.opened_of (h : Orderly w) (he : Keeps w w' ∨ Opens settings w w') :
    ∀ entry ∈ w'.state.cache.entries, entry.session < w'.state.bound := by
  intro entry' hm
  rcases he with hk | ho
  · obtain ⟨entry, he, -, hs⟩ := hk.entries entry' hm
    rw [hk.bound, ← hs]
    exact h.opened entry he
  · rw [ho.bound]
    rcases ho.entry_cases hm with he | hs
    · exact Nat.lt_succ_of_lt (h.opened entry' he)
    · rw [hs]
      exact Nat.lt_succ_self _

theorem Orderly.distinct_of (h : Orderly w) (he : Keeps w w' ∨ Opens settings w w') :
    ∀ entry ∈ w'.state.cache.entries, ∀ entry' ∈ w'.state.cache.entries,
      entry.session = entry'.session → entry.label = entry'.label := by
  intro a ha b hb hs
  rcases he with hk | ho
  · obtain ⟨a₀, ha₀, hla, hsa⟩ := hk.entries a ha
    obtain ⟨b₀, hb₀, hlb, hsb⟩ := hk.entries b hb
    rw [← hla, ← hlb]
    exact h.distinct a₀ ha₀ b₀ hb₀ (hsa.trans (hs.trans hsb.symm))
  · obtain ⟨label, _, _, _, -, -, hst⟩ := ho
    rw [hst] at ha hb
    rcases List.mem_append.mp ha with ha | ha <;> rcases List.mem_append.mp hb with hb | hb
    · exact h.distinct a ha b hb hs
    · obtain rfl := List.mem_singleton.mp hb
      exact absurd hs (Nat.ne_of_lt (h.opened a ha))
    · obtain rfl := List.mem_singleton.mp ha
      exact absurd hs.symm (Nat.ne_of_lt (h.opened b hb))
    · rw [List.mem_singleton.mp ha, List.mem_singleton.mp hb]

variable [DecidableEq S]

theorem effect_of_turn (hg : ∀ e ∈ w.errands, (tenants S settings).Genuine e)
    (h : (tenants S settings).Turn w i x w') : Keeps w w' ∨ Opens settings w w' := by
  obtain ⟨e, hi, hq, ha, hw'⟩ := h
  have he := List.mem_of_getElem? hi
  obtain ⟨⟨s, work, hp⟩, -⟩ := hg e he
  rw [hp] at hq
  generalize hst : w'.state = st at ha
  cases ha with
  | read => exact .inl (.of_record _ hst)
  | join hc hk =>
    rcases Cache.attach_cases hc with ⟨_, -, -, -, rfl⟩ | ⟨-, rfl, -⟩
    · refine .inl (.of_cache hst fun entry' he' => ?_)
      obtain ⟨entry, hm, rfl⟩ := List.mem_map.mp he'
      exact ⟨entry, hm, Cache.Entry.join_label.symm, Cache.Entry.join_session.symm⟩
    · cases hk
  | @opens label endpoint source _ _ now hc hk =>
    -- whoever opens a session holds it from then on
    obtain ⟨_, credential, -, -, ht, rfl⟩ := attach_of_tenure hq
    rcases Cache.attach_cases hc with ⟨_, -, -, rfl, -⟩ | ⟨hf, rfl, rfl⟩
    · cases hk
    refine .inr ⟨_, endpoint, source, now, hf, ?_, hst⟩
    have hlt := (List.getElem?_eq_some_iff.mp hi).1
    rw [hw']
    refine ⟨_, List.mem_set hlt _, endpoint, credential, false, ?_⟩
    rw [ht]
    exact List.prefix_refl _
  | sourceOf => exact .inl (.of_record [] hst)
  | replaceSource hs =>
    obtain ⟨endpoint, credential, hh⟩ := replace_of_tenure hq
    refine .inl (.of_step [] hs (fun source hr => ?_) (fun f hf => hf) hst)
    obtain rfl := Traffic.Event.replaced.inj hr
    exact mem_heldWith he hh
  | ping => exact .inl (.of_record [] hst)
  | check => exact .inl (.of_record [] hst)
  | state => exact .inl (.of_record [] hst)
  | send _ hs => exact .inl (.of_step _ hs nofun (fun f hf => absurd hf List.not_mem_nil) hst)
  | release =>
    refine .inl (.of_cache hst fun entry' he' => ?_)
    obtain ⟨⟨entry, hm, rfl⟩, -⟩ := Cache.mem_release.mp he'
    exact ⟨entry, hm, Cache.Entry.leave_label.symm, Cache.Entry.leave_session.symm⟩

theorem effect_of_step (hg : ∀ e ∈ w.errands, (tenants S settings).Genuine e)
    (h : (tenants S settings).Step w w') : Keeps w w' ∨ Opens settings w w' := by
  cases h with
  | start _ => exact .inl (.of_record [] rfl)
  | turn ht => exact effect_of_turn hg ht
  | drift hd =>
    generalize hst : w.state = st at hd
    cases hd with
    | session _ hr hs =>
      subst hst
      exact .inl (.of_step _ hs (fun source he => absurd he (hr source)) (fun f hf => hf) rfl)

/-! ## Who holds what -/

theorem told_before (h : (tenants S settings).Step w w') {e' : Errand (Answer (S := S)) (Except Error Client)}
    (he : e' ∈ w'.errands) (hn : e'.told ≠ []) : (∃ e ∈ w.errands, e.told = e'.told) ∨
      ∃ i x, ∃ e ∈ w.errands, (tenants S settings).Turn w i x w' ∧ e'.told = e.told ++ [x] := by
  obtain ⟨j, hj⟩ := List.getElem?_of_mem he
  rcases h.errand_cases hj with h₁ | ⟨-, ht⟩ | ⟨x, told, ht, h₁, h₂⟩
  · exact .inl ⟨e', List.mem_of_getElem? h₁, rfl⟩
  · exact absurd ht hn
  · exact .inr ⟨j, x, _, List.mem_of_getElem? h₁, ht, h₂⟩

theorem read_before (h : (tenants S settings).Step w w') {e' : Errand (Answer (S := S)) (Except Error Client)}
    (he : e' ∈ w'.errands) (hr : ⟨.lookUp (.read source), .ok credential⟩ ∈ e'.told) :
    (∃ e ∈ w.errands, ⟨.lookUp (.read source), .ok credential⟩ ∈ e.told) ∨
      .yielded source credential ∈ w'.state.log := by
  rcases told_before h he (List.ne_nil_of_mem hr) with ⟨e, hm, ht⟩ | ⟨i, x, e, hm, ht, htold⟩
  · exact .inl ⟨e, hm, ht ▸ hr⟩
  rw [htold] at hr
  rcases List.mem_append.mp hr with hr | hr
  · exact .inl ⟨e, hm, hr⟩
  · have ha := ht.answers
    rw [← List.mem_singleton.mp hr] at ha
    generalize w'.state = st at ha ⊢
    cases ha with
    | read => exact .inr (List.mem_append_left _ List.mem_cons_self)

/-- The session was taken hold of in the step, under a label that is in the cache since. -/
theorem holds_before (h : (tenants S settings).Step w w') {e' : Errand (Answer (S := S)) (Except Error Client)}
    (he : e' ∈ w'.errands) (hh : Holds id endpoint source credential e'.told) :
    (∃ e ∈ w.errands, Holds id endpoint source credential e.told) ∨
      ∃ entry ∈ w'.state.cache.entries, entry.session = id ∧
        entry.label = sessionLabel endpoint credential := by
  have hn : e'.told ≠ [] := by
    intro hn
    rw [hn] at hh
    exact not_holds_nil hh
  rcases told_before h he hn with ⟨e, hm, ht⟩ | ⟨i, x, e, hm, ht, htold⟩
  · exact .inl ⟨e, hm, ht ▸ hh⟩
  rw [htold] at hh
  rcases hh.before with hh | ⟨known, rfl⟩
  · exact .inl ⟨e, hm, hh⟩
  have ha := ht.answers
  -- a new entry if it was opened, else the one that was there
  have hc : w.state.cache.attach (sessionLabel endpoint credential) w.state.bound =
      (⟨id, known⟩, w'.state.cache) := by
    generalize w'.state = st at ha ⊢
    cases ha with
    | join hc _ => exact hc
    | opens _ hc _ => exact hc
  rcases Cache.attach_cases hc with ⟨entry, hm, hl, hid, hc'⟩ | ⟨-, hid, hc'⟩
  · rw [hc']
    refine .inr ⟨_, List.mem_map_of_mem hm, ?_, ?_⟩
    · rw [Cache.Entry.join_session]
      exact (congrArg Cache.Hold.session hid).symm
    · rw [Cache.Entry.join_label, hl]
  · rw [hc']
    refine .inr ⟨_, List.mem_append_right _ List.mem_cons_self, ?_, rfl⟩
    exact (congrArg Cache.Hold.session hid).symm

theorem heldWith_of_step (h : (tenants S settings).Step w w') (hh : HeldWith w.errands id source) :
    HeldWith w'.errands id source := by
  obtain ⟨e, he, endpoint, credential, hh⟩ := hh
  obtain ⟨j, hj⟩ := List.getElem?_of_mem he
  obtain ⟨more, hm⟩ := h.goes_on hj
  exact ⟨_, List.mem_of_getElem? hm, endpoint, credential, hh.append⟩

/-! ## Whole runs -/

theorem Orderly.sourced_of (h : Orderly w) (hs : (tenants S settings).Step w w')
    (he : Keeps w w' ∨ Opens settings w w') {id : SessionId} (hid : id < w'.state.bound) :
    Traffic.Sourced (HeldWith w'.errands id) w'.state.log id (w'.state.sessions id) := by
  have held : ∀ source, HeldWith w.errands id source → HeldWith w'.errands id source :=
    fun _ hh => heldWith_of_step hs hh
  rcases he with hk | ho
  · rw [hk.bound] at hid
    exact (hk.sourced id (h.sourced id hid)).mono held fun _ hf => hf
  · rw [ho.bound] at hid
    obtain ⟨label, endpoint, source, now, -, hh, hst⟩ := ho
    rw [hst]
    simp only [Common.put_log, Common.put_sessions]
    by_cases hb : id = w.state.bound
    · subst hb
      rw [if_pos rfl]
      exact Traffic.sourced_opened hh
    · rw [if_neg hb]
      exact (h.sourced id (Nat.lt_of_le_of_ne (Nat.lt_succ_iff.mp hid) hb)).mono held fun _ hf => hf

theorem Orderly.held_of (h : Orderly w) (hs : (tenants S settings).Step w w')
    (he : Keeps w w' ∨ Opens settings w w') {e : Errand (Answer (S := S)) (Except Error Client)}
    (hm : e ∈ w'.errands) (hh : Holds id endpoint source credential e.told) :
    id < w'.state.bound ∧ ∀ entry ∈ w'.state.cache.entries, entry.session = id →
      entry.label = sessionLabel endpoint credential := by
  rcases holds_before hs hm hh with ⟨e₀, hm₀, hh₀⟩ | ⟨entry, hen, rfl, hl⟩
  · obtain ⟨hlt, hlabel⟩ := h.held e₀ hm₀ _ _ _ _ hh₀
    rcases he with hk | ho
    · refine ⟨hk.bound ▸ hlt, fun entry' he' hid => ?_⟩
      obtain ⟨entry, hen, hl, hsn⟩ := hk.entries entry' he'
      rw [← hl]
      exact hlabel entry hen (hsn.trans hid)
    · refine ⟨ho.bound ▸ Nat.lt_succ_of_lt hlt, fun entry' he' hid => ?_⟩
      rcases ho.entry_cases he' with hen | hsn
      · exact hlabel entry' hen hid
      · exact absurd (hid.symm.trans hsn) (Nat.ne_of_lt hlt)
  · refine ⟨h.opened_of he entry hen, fun entry' he' hid => ?_⟩
    rw [← hl]
    exact h.distinct_of he entry' he' entry hen hid

theorem Orderly.alike_of (h : Orderly w) (hs : (tenants S settings).Step w w')
    (he : Keeps w w' ∨ Opens settings w w') {e e' : Errand (Answer (S := S)) (Except Error Client)}
    (hm : e ∈ w'.errands) (hm' : e' ∈ w'.errands) {endpoint' : String} {source' : S}
    {credential' : Credential} (hh : Holds id endpoint source credential e.told)
    (hh' : Holds id endpoint' source' credential' e'.told) :
    sessionLabel endpoint credential = sessionLabel endpoint' credential' := by
  -- whoever has just taken hold of the session finds its label in the cache
  have now (hn : ∃ entry ∈ w'.state.cache.entries, entry.session = id) :
      sessionLabel endpoint credential = sessionLabel endpoint' credential' := by
    obtain ⟨entry, hen, hsn⟩ := hn
    rw [← (h.held_of hs he hm hh).2 entry hen hsn, (h.held_of hs he hm' hh').2 entry hen hsn]
  rcases holds_before hs hm hh with ⟨e₀, hm₀, hh₀⟩ | ⟨entry, hen, hsn, -⟩
  · rcases holds_before hs hm' hh' with ⟨e₀', hm₀', hh₀'⟩ | ⟨entry, hen, hsn, -⟩
    · exact h.alike e₀ hm₀ e₀' hm₀' id _ _ _ _ _ _ hh₀ hh₀'
    · exact now ⟨entry, hen, hsn⟩
  · exact now ⟨entry, hen, hsn⟩

theorem Orderly.read_of (h : Orderly w) (hs : (tenants S settings).Step w w')
    (he : Keeps w w' ∨ Opens settings w w') {e : Errand (Answer (S := S)) (Except Error Client)}
    (hm : e ∈ w'.errands) (hr : ⟨.lookUp (.read source), .ok credential⟩ ∈ e.told) :
    .yielded source credential ∈ w'.state.log := by
  rcases read_before hs hm hr with ⟨e₀, hm₀, hr₀⟩ | hy
  · have hy := h.read e₀ hm₀ _ _ hr₀
    rcases he with hk | ho
    · exact hk.log _ hy
    · obtain ⟨_, _, _, _, -, -, hst⟩ := ho
      rw [hst]
      exact hy
  · exact hy

theorem orderly_of_step (hg : ∀ e ∈ w.errands, (tenants S settings).Genuine e)
    (hs : (tenants S settings).Step w w') (h : Orderly w) : Orderly w' := by
  have he := effect_of_step hg hs
  exact ⟨fun _ hid => h.sourced_of hs he hid, h.opened_of he, h.distinct_of he,
    fun _ hm _ _ hr => h.read_of hs he hm hr, fun _ hm _ _ _ _ hh => h.held_of hs he hm hh,
    fun _ hm _ hm' _ _ _ _ _ _ _ hh hh' => h.alike_of hs he hm hm' hh hh'⟩

theorem orderly_of_runs {t : Traffic S} (h : (tenants S settings).Runs (vacant t) w) : Orderly w :=
  h.invariant orderly_vacant fun hw ho hs => orderly_of_step (Runs.genuine hw) hs ho

end Tenancy

end ClusterOperator.Provider
