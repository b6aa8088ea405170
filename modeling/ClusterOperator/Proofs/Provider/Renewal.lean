import ClusterOperator.Proofs.Provider.Period

/-!
# Used sessions renew, idle ones run out

From its first login on a session goes from period to period. As long as it is used in
each, every renewal comes before the expiry, and the session is never without a token.
-/

namespace ClusterOperator.Provider.Traffic

variable {S : Type} {settings : SessionSettings} {w w' w₀ u v : Traffic S} {e : Event S}
  {t now start x : Instant} {token token' : IssuedToken} {mid log : List (Instant × Event S)}

/-! ## Logins -/

/-- A login succeeds at an instant. -/
structure LogsIn (settings : SessionSettings) (t : Instant) (v : Traffic S) (e : Event S)
    (token : IssuedToken) (u : Traffic S) : Prop where
  timely : e.Timely settings t v
  step : Step settings v e u
  issued : e.issued? = some token

/-- Nobody has used the session in the future, or passes the gate beside another. -/
structure Sound (now : Instant) (w : Traffic S) : Prop where
  used : ∀ x, w.session.lastUse = some x → x ≤ now
  gate : w.OneAtGate

theorem LogsIn.outlives (h : LogsIn settings t v e token u) :
    settings.refreshBuffer.nanos < token.lifetime.nanos := by
  obtain ⟨i, c, x, draw, rfl, -, -, -⟩ := h.step.moves_of_issued h.issued
  obtain ⟨-, hacc⟩ := h.timely.accepting
  cases hacc with
  | token h => exact h

theorem LogsIn.renewal_lt (h : LogsIn settings t v e token u)
    (hb : 0 < settings.refreshBuffer.nanos) : renewal settings t token < expiry t token :=
  Nat.add_lt_add_left (Nat.sub_lt (Nat.lt_trans hb h.outlives) hb) t

theorem LogsIn.lt_renewal (h : LogsIn settings t v e token u) : t < renewal settings t token :=
  Nat.lt_add_of_pos_right (Nat.sub_pos_of_lt h.outlives)

theorem LogsIn.asks (h : LogsIn settings t v e token u) : e.asks = false := by
  obtain ⟨i, c, x, draw, rfl, -, -, -⟩ := h.step.moves_of_issued h.issued
  rfl

theorem LogsIn.not_used (h : LogsIn settings t v e token u) (x : Instant) : e ≠ .used x := by
  rintro rfl
  cases h.issued

theorem lastUse_of_moves {draw : Float} {gateFree : Bool} {s s' : Session S}
    {stage stage' : Stage S} {input : Input}
    (h : Stage.Moves settings now draw gateFree s stage input s' stage') : s'.lastUse = s.lastUse := by
  cases h <;> rfl

theorem Sound.step (h : Sound now w) (ht : e.Timely settings now w) (hs : Step settings w e w') :
    Sound now w' := by
  refine ⟨?_, hs.oneAtGate h.gate⟩
  cases ht with
  | pinged => cases hs; exact h.used
  | replaced => cases hs; exact h.used
  | used =>
    cases hs
    rintro x hx
    exact Nat.le_of_eq (Option.some.inj hx).symm
  | @wentOff kind _ =>
    rw [hs.session_of_wentOff]
    cases kind <;> exact h.used
  | moved _ =>
    obtain ⟨stage, stage', -, -, hm⟩ := hs.moves
    rw [lastUse_of_moves hm]
    exact h.used

theorem Passes.sound (h : Passes settings start w₀ log now w) (h₀ : Sound start w₀) : Sound now w := by
  induction h with
  | refl => exact h₀
  | act _ ht hs ih => exact ih.step ht hs
  | wait _ hl _ ih => exact ⟨fun x hx => Nat.le_trans (ih.used x hx) (Nat.le_of_lt hl), ih.gate⟩

theorem LogsIn.phase (h : LogsIn settings t v e token u) (hv : Sound t v) (ho : Open True v) :
    Phase settings t token u [] t u :=
  phase_of_login h.timely h.step h.issued hv.gate ho hv.used

/-! ## The next login -/

/-- What has become of a login: its period lasts, or a login of the same session followed. -/
inductive Follows (settings : SessionSettings) (t : Instant) (token : IssuedToken) (u : Traffic S)
    (mid : List (Instant × Event S)) (now : Instant) (w : Traffic S) : Prop
  | during : Phase settings t token u mid now w → Follows settings t token u mid now w
  | followed {later before : List (Instant × Event S)} {x : Instant} {e : Event S}
    {token' : IssuedToken} {v' u' : Traffic S} : mid = later ++ (x, e) :: before →
    Passes settings t u before x v' → Phase settings t token u before x v' →
    LogsIn settings x v' e token' u' → Passes settings x u' later now w →
    Follows settings t token u mid now w

theorem Passes.follows (h : Passes settings t u mid now w)
    (hlt : renewal settings t token < expiry t token) (hp : Phase settings t token u [] t u) :
    Follows settings t token u mid now w := by
  induction h with
  | refl => exact .during hp
  | @act mid now w w' e hpass ht hs ih =>
    cases ih with
    | during hp =>
      cases hi : e.issued? with
      | none => exact .during (hp.step hlt ht hs hi hpass)
      | some token' => exact .followed rfl hpass hp ⟨ht, hs, hi⟩ .refl
    | followed hm hb hp hl hlater =>
      subst hm
      exact .followed rfl hb hp hl (hlater.act ht hs)
  | wait hpass hlt' ha ih =>
    cases ih with
    | during hp => exact .during (hp.wait hlt' ha)
    | followed hm hb hp hl hlater => exact .followed hm hb hp hl (hlater.wait hlt' ha)

theorem Phase.renewal_le_request (h : Phase settings t token u mid now w)
    (hlt : renewal settings t token < expiry t token) :
    ∀ x ∈ requestTimes mid, renewal settings t token ≤ x := by
  cases h with
  | early _ _ _ _ _ hq => rw [hq]; nofun
  | renewing _ _ _ hnow _ _ hp =>
    generalize requestTimes mid = times at hp
    cases hp with
    | requesting _ => exact List.forall_mem_singleton.mpr (Nat.le_of_eq hnow.symm)
    | _ => nofun
  | released _ _ _ _ _ _ hq _ => rw [hq]; nofun
  | expiring _ _ _ _ _ _ _ hq _ => rw [hq]; nofun
  | ended _ _ _ _ _ hq _ _ => exact fun x hx => Nat.le_trans (Nat.le_of_lt hlt) (hq x hx).1

/-- The instant of the next login. -/
theorem Phase.renewal_le_login {e : Event S} {u' : Traffic S} (h : Phase settings t token u mid now w)
    (hlt : renewal settings t token < expiry t token) (hl : LogsIn settings now w e token' u') :
    renewal settings t token ≤ now := by
  obtain ⟨-, ⟨hnow, -⟩ | ⟨hle, -⟩⟩ := h.login_cases hl.step hl.issued
  · exact Nat.le_of_eq hnow.symm
  · exact Nat.le_trans (Nat.le_of_lt hlt) hle

/-- Nobody asks for a token before the renewal of the first login is due. -/
theorem Passes.renewal_le_request (hb : 0 < settings.refreshBuffer.nanos)
    (h : Passes settings t u mid now w) (hu : Sound t u)
    (hlt : renewal settings t token < expiry t token) (hp : Phase settings t token u [] t u) :
    ∀ x ∈ requestTimes mid, renewal settings t token ≤ x := by
  induction hn : mid.length using Nat.strongRecOn generalizing t token u mid with
  | _ n ih =>
    cases h.follows hlt hp with
    | during hp => exact hp.renewal_le_request hlt
    | @followed later before x e token' v' u' hm hbef hp' hl hlater =>
      subst hm hn
      intro y hy
      rw [requestTimes_append, requestTimes_cons_of_not_asks hl.asks] at hy
      rcases List.mem_append.mp hy with hy | hy
      · have hv' : Sound x v' := hbef.sound hu
        have hlen : later.length < (later ++ (x, e) :: before).length := by
          rw [List.length_append]
          exact Nat.lt_add_of_pos_right (Nat.succ_pos _)
        have hopen := (hp'.login_cases hl.step hl.issued).1
        have hle := ih later.length hlen hlater (hv'.step hl.timely hl.step) (hl.renewal_lt hb)
          (hl.phase hv' hopen) rfl y hy
        exact Nat.le_trans (hp'.renewal_le_login hlt hl) (Nat.le_trans (Nat.le_of_lt hl.lt_renewal) hle)
      · exact hp'.renewal_le_request hlt y hy

/-! ## One period -/

/-- A session that is logged in asks for one token at an instant, and has it and its timers from
that instant on. -/
structure RenewedAt (settings : SessionSettings) (t : Instant) (token : IssuedToken) (u : Traffic S)
    (r : Instant) (mid : List (Instant × Event S)) (now : Instant) (w : Traffic S) : Prop where
  requests : (requestTimes mid).count r = 1
  login : ∃ later e before token' v u', mid = later ++ (r, e) :: before ∧
    Passes settings t u before r v ∧ v.session.login = ⟨.active, token.accessToken, token.id⟩ ∧
    LogsIn settings r v e token' u' ∧
    u'.session.login = ⟨.active, token'.accessToken, token'.id⟩ ∧
    u'.session.expire.due = some (expiry r token') ∧
    u'.session.renew.due = some (renewal settings r token') ∧ Passes settings r u' later now w

/-- What has become of a login that was not used before its renewal was over. -/
inductive Lapses (settings : SessionSettings) (t : Instant) (token : IssuedToken) (u : Traffic S)
    (mid : List (Instant × Event S)) (now : Instant) (w : Traffic S) : Prop
  | held : now ≤ expiry t token → w.session.login = ⟨.active, token.accessToken, token.id⟩ →
    requestTimes mid = [] → Lapses settings t token u mid now w
  | lapsed : expiry t token ≤ now → w.session.state = .inactive → w.session.token = "" →
    requestTimes mid = [] → LapsedAt settings t u (expiry t token) mid →
    Lapses settings t token u mid now w
  | pinged : expiry t token ≤ now → PingedFrom (expiry t token) mid →
    (∀ x ∈ requestTimes mid, expiry t token ≤ x) → LapsedAt settings t u (expiry t token) mid →
    Lapses settings t token u mid now w

theorem Phase.lapses (h : Phase settings t token u mid now w)
    (hlt : renewal settings t token < expiry t token) (hmid : ∀ x ∈ mid, x.1 ≤ now)
    (hx : ∀ x, (x, .used x) ∈ mid → x ≤ t ∨ renewal settings t token < x) :
    Lapses settings t token u mid now w := by
  cases h with
  | early hh _ _ hle _ hq => exact .held (Nat.le_trans hle (Nat.le_of_lt hlt)) hh.login hq
  | renewing hh _ _ hnow _ _ hp =>
    refine .held (hnow ▸ Nat.le_of_lt hlt) hh.login ?_
    generalize requestTimes mid = times at hp
    cases hp with
    | requesting hu =>
      -- it was used, which cannot be after the renewal
      obtain ⟨y, hy, hty⟩ := hh.used.mp hu
      have hle : y ≤ renewal settings t token := hnow ▸ hmid _ hy
      exact ((hx y hy).elim (Nat.not_le_of_gt hty) (Nat.not_lt_of_ge hle)).elim
    | _ => rfl
  | released hh _ _ _ hle _ hq _ => exact .held hle hh.login hq
  | expiring hh _ _ hnow _ _ _ hq _ => exact .held (Nat.le_of_eq hnow) hh.login hq
  | ended hstate htok _ hle _ hq _ hlapse =>
    by_cases hping : PingedFrom (expiry t token) mid
    · exact .pinged hle hping (fun x hx => (hq x hx).1) hlapse
    · exact .lapsed hle hstate htok
        (List.eq_nil_iff_forall_not_mem.mpr fun x hx => hping (hq x hx).2) hlapse

section
variable (hb : 0 < settings.refreshBuffer.nanos) (hl : LogsIn settings t v e token u)
  (hu : Sound t u) (hp : Phase settings t token u [] t u) (h : Passes settings t u mid now w)
include hb hl hp h

theorem held_before_renewal (hnow : now < renewal settings t token) :
    w.session.login = ⟨.active, token.accessToken, token.id⟩ ∧ requestTimes mid = [] := by
  have hlt := hl.renewal_lt hb
  cases h.follows hlt hp with
  | during hp =>
    cases hp with
    | early hh _ _ _ _ hq => exact ⟨hh.login, hq⟩
    | renewing _ _ _ hr _ _ _ => exact absurd hr (Nat.ne_of_lt hnow)
    | released _ _ _ hle _ _ _ _ => exact absurd hle (Nat.not_le_of_gt hnow)
    | expiring _ _ _ hx _ _ _ _ _ => exact absurd (hx ▸ hnow) (Nat.not_lt_of_gt hlt)
    | ended _ _ _ hle _ _ _ _ =>
      exact absurd (Nat.lt_of_le_of_lt hle hnow) (Nat.not_lt_of_gt hlt)
  | followed _ _ hp' hl' hlater =>
    have hle := Nat.le_trans (hp'.renewal_le_login hlt hl') hlater.start_le
    exact absurd hle (Nat.not_le_of_gt hnow)

include hu in
theorem active_until_renewal (hnow : now ≤ renewal settings t token) :
    w.session.state = .active := by
  have hlt := hl.renewal_lt hb
  have active : ∀ {token : IssuedToken} {w : Traffic S},
      w.session.login = ⟨.active, token.accessToken, token.id⟩ → w.session.state = .active :=
    fun h => congrArg Login.state h
  cases h.follows hlt hp with
  | during hp =>
    cases hp with
    | early hh _ _ _ _ _ => exact active hh.login
    | renewing hh _ _ _ _ _ _ => exact active hh.login
    | released hh _ _ _ _ _ _ _ => exact active hh.login
    | expiring hh _ _ _ _ _ _ _ _ => exact active hh.login
    | ended _ _ _ hle _ _ _ _ =>
      exact absurd (Nat.le_trans hle hnow) (Nat.not_le_of_gt hlt)
  | followed hm hbef hp' hl' hlater =>
    have hv' := hbef.sound hu
    have hopen := (hp'.login_cases hl'.step hl'.issued).1
    have hx := Nat.le_trans hnow (hp'.renewal_le_login hlt hl')
    exact active (held_before_renewal hb hl' (hl'.phase hv' hopen) hlater
      (Nat.lt_of_le_of_lt hx hl'.lt_renewal)).1

include hu in
/-- A session that is used before its renewal is due is renewed when it is. -/
theorem renewed_of_used (hx : (x, .used x) ∈ mid) (htx : t < x) (hxr : x < renewal settings t token)
    (hnow : renewal settings t token < now) :
    RenewedAt settings t token u (renewal settings t token) mid now w := by
  have hlt := hl.renewal_lt hb
  have used {log : List (Instant × Event S)} (hu : UnusedUntil t (renewal settings t token) log)
      (hx : (x, .used x) ∈ log) : False := Nat.not_le_of_gt hxr (hu x hx htx)
  cases h.follows hlt hp with
  | during hp =>
    cases hp with
    | early _ _ _ hle _ _ => exact absurd hle (Nat.not_le_of_gt hnow)
    | renewing _ _ _ hr _ _ _ => exact absurd hr (Nat.ne_of_gt hnow)
    | released _ _ _ _ _ _ _ hu => exact (used hu hx).elim
    | expiring _ _ _ _ _ _ _ _ hu => exact (used hu hx).elim
    | ended _ _ _ _ _ _ hu _ => exact (used hu hx).elim
  | @followed later before y e' token' v' u' hm hbef hp' hl' hlater =>
    subst hm
    -- it was used before the next login
    have hbefore : (x, .used x) ∈ before := by
      rcases List.mem_append.mp hx with hx | hx
      · have hyx := Nat.le_trans (hp'.renewal_le_login hlt hl') (hlater.since _ hx)
        exact absurd hyx (Nat.not_le_of_gt hxr)
      · rcases List.mem_cons.mp hx with hx | hx
        · exact absurd (Prod.mk.inj hx).2.symm (hl'.not_used x)
        · exact hx
    have hv' := hbef.sound hu
    obtain ⟨hopen, ⟨rfl, hq, hlogin, -⟩ | ⟨-, hu, -⟩⟩ := hp'.login_cases hl'.step hl'.issued
    · have hp'' := hl'.phase hv' hopen
      have hlate := hlater.renewal_le_request hb (hv'.step hl'.timely hl'.step) (hl'.renewal_lt hb) hp''
      refine ⟨?_, later, e', before, token', v', u', rfl, hbef, hlogin, hl', ?_⟩
      · have hnone : renewal settings t token ∉ requestTimes later := fun hm =>
          Nat.not_le_of_gt hl'.lt_renewal (hlate _ hm)
        rw [requestTimes_append, requestTimes_cons_of_not_asks hl'.asks, hq, List.count_append,
          List.count_eq_zero_of_not_mem hnone, List.count_singleton_self]
      · obtain ⟨i, c, z, draw, he, -, -, hs⟩ := hl'.step.moves_of_issued hl'.issued
        subst he
        obtain ⟨rfl, -⟩ := hl'.timely.accepting
        rw [hs]
        exact ⟨Session.login_succeed token', rfl, rfl, hlater⟩
    · exact (used hu hbefore).elim

include hu in
theorem Passes.lapses (hx : ∀ x, (x, .used x) ∈ mid → x ≤ t ∨ renewal settings t token < x) :
    Lapses settings t token u mid now w := by
  have hlt := hl.renewal_lt hb
  cases h.follows hlt hp with
  | during hp' => exact hp'.lapses hlt h.until hx
  | @followed later before y e' token' v' u' hm hbef hp' hl' hlater =>
    subst hm
    have hv' := hbef.sound hu
    obtain ⟨hopen, ⟨hy, -, -, z, hz, htz⟩ | ⟨hle, -, hq, hping, hlapse⟩⟩ :=
      hp'.login_cases hl'.step hl'.issued
    · have hle : z ≤ renewal settings t token := hy ▸ hbef.until _ hz
      have hz' := hx z (List.mem_append_right _ (.tail _ hz))
      exact (hz'.elim (Nat.not_le_of_gt htz) (Nat.not_lt_of_ge hle)).elim
    · have hlate := hlater.renewal_le_request hb (hv'.step hl'.timely hl'.step) (hl'.renewal_lt hb)
        (hl'.phase hv' hopen)
      refine .pinged (Nat.le_trans hle hlater.start_le) ?_ ?_ ?_
      · obtain ⟨z, hz, hxz⟩ := hping
        exact ⟨z, List.mem_append_right _ (.tail _ hz), hxz⟩
      · intro z hz
        rw [requestTimes_append, requestTimes_cons_of_not_asks hl'.asks] at hz
        rcases List.mem_append.mp hz with hz | hz
        · exact Nat.le_trans hle (Nat.le_trans (Nat.le_of_lt hl'.lt_renewal) (hlate z hz))
        · exact hq z hz
      · obtain ⟨after, first, w₁, rfl, hw₁⟩ := hlapse
        exact ⟨later ++ (y, e') :: after, first, w₁, by simp, hw₁⟩

end

/-! ## Whole runs -/

/-- A session that was just made, as such or by a cache, which plans its first login. -/
inductive Begins (settings : SessionSettings) (start : Instant) : Traffic S → Prop
  | made {endpoint : String} {source : S} :
    Begins settings start (.start (.start settings endpoint source))
  | opened {endpoint : String} {source : S} :
    Begins settings start (.start (.opened settings start endpoint source))

/-- Nobody has logged in yet. -/
structure Fresh (w : Traffic S) : Prop where
  state : w.session.state = .unstarted
  renew : w.session.renew.due = none
  expire : w.session.expire.due = none
  isOpen : Open True w

theorem Begins.fresh (h : Begins settings start w₀) : Fresh w₀ := by
  cases h with
  | made => exact ⟨rfl, rfl, rfl, nofun⟩
  | opened => exact ⟨rfl, rfl, rfl, nofun⟩

theorem Begins.sound (h : Begins settings start w₀) : Sound start w₀ := by
  cases h with
  | made => exact ⟨nofun, nofun⟩
  | opened => exact ⟨nofun, nofun⟩

/-- The retry of a new session goes off. -/
theorem Step.open_of_wentOff (h : Step settings w (.wentOff .retry) w') (ho : Open True w) :
    Open True w' := by
  have hw := h.session_of_wentOff
  intro i stage hs
  rcases h.task_before hs with hb | ⟨_, _, _, _, he, -, -⟩ | ⟨_, he, -, -⟩ | ⟨kind, he, -, rfl⟩
  · have hg : ∀ kind, (w'.session.timer kind).generation = (w.session.timer kind).generation := by
      rw [hw]
      rintro (_ | _ | _) <;> rfl
    exact (ho i stage hb).imp (·.mono h.generation_le) (And.imp_right (·.of_same hg))
  · cases he
  · cases he
  · cases he
    refine .inr ⟨trivial, .inr (.inr (.inl ?_))⟩
    rw [hw]
    exact decide_eq_true rfl

theorem Fresh.step (h : Fresh w) (ht : e.Timely settings now w) (hs : Step settings w e w')
    (hi : e.issued? = none) : Fresh w' := by
  by_cases hk : ∃ kind, e = .wentOff kind
  · obtain ⟨kind, rfl⟩ := hk
    have hw := hs.session_of_wentOff
    cases ht with
    | wentOff hd =>
      cases kind with
      | retry =>
        exact ⟨by rw [hw]; exact h.state, by rw [hw]; exact h.renew, by rw [hw]; exact h.expire,
          hs.open_of_wentOff h.isOpen⟩
      | renew => cases h.renew.symm.trans hd
      | expire => cases h.expire.symm.trans hd
  · obtain ⟨ho, hl, htimer, -⟩ := hs.beside ht h.isOpen hi (fun kind hk' => hk ⟨kind, hk'⟩)
      (fun _ => trivial)
    have hr : w'.session.renew = w.session.renew := htimer .renew
    have hx : w'.session.expire = w.session.expire := htimer .expire
    have hst : w'.session.state = w.session.state := congrArg Login.state hl
    exact ⟨hst.trans h.state, by rw [hr, h.renew], by rw [hx, h.expire], ho⟩

/-- Where a session stands: at its beginning, or in the period of its last login. -/
inductive Stands (settings : SessionSettings) (log : List (Instant × Event S)) (now : Instant)
    (w : Traffic S) : Prop
  | fresh : Fresh w → Stands settings log now w
  | since {mid before : List (Instant × Event S)} {t : Instant} {e : Event S}
    {token : IssuedToken} {v u : Traffic S} : log = mid ++ (t, e) :: before →
    (∀ x ∈ before, x.1 ≤ t) → LogsIn settings t v e token u → Passes settings t u mid now w →
    Phase settings t token u mid now w → Stands settings log now w

theorem Stands.isOpen {e : Event S} {u : Traffic S} (h : Stands settings log now w)
    (hl : LogsIn settings now w e token u) : Open True w := by
  cases h with
  | fresh hf => exact hf.isOpen
  | since _ _ _ _ hp => exact (hp.login_cases hl.step hl.issued).1

theorem Passes.stands (hb : 0 < settings.refreshBuffer.nanos) (h₀ : Begins settings start w₀)
    (h : Passes settings start w₀ log now w) : Stands settings log now w := by
  induction h with
  | refl => exact .fresh h₀.fresh
  | @act log now w w' e hpass ht hs ih =>
    cases hi : e.issued? with
    | some token =>
      have hl : LogsIn settings now w e token w' := ⟨ht, hs, hi⟩
      have hlog : (now, e) :: log = [] ++ (now, e) :: log := rfl
      exact .since hlog hpass.until hl .refl (hl.phase (hpass.sound h₀.sound) (ih.isOpen hl))
    | none =>
      cases ih with
      | fresh hf => exact .fresh (hf.step ht hs hi)
      | since hm hbef hl hmid hp =>
        subst hm
        exact .since rfl hbef hl (hmid.act ht hs) (hp.step (hl.renewal_lt hb) ht hs hi hmid)
  | wait hpass hlt ha ih =>
    cases ih with
    | fresh hf => exact .fresh hf
    | since hm hbef hl hmid hp => exact .since hm hbef hl (hmid.wait hlt ha) (hp.wait hlt ha)

/-- A session that was used before each of its renewals was due is not without a token. -/
theorem never_inactive (hb : 0 < settings.refreshBuffer.nanos) (h₀ : Begins settings start w₀)
    (h : Passes settings start w₀ log now w)
    (hused : ∀ t e token, (t, e) ∈ log → e.issued? = some token → renewal settings t token ≤ now →
      ∃ x, (x, .used x) ∈ log ∧ t < x ∧ x < renewal settings t token) :
    w.session.state ≠ .inactive := by
  have active {t : Instant} {token : IssuedToken} {mid : List (Instant × Event S)}
      (hh : Held t token mid w) : w.session.state ≠ .inactive := by
    rw [show w.session.state = .active from congrArg Login.state hh.login]
    nofun
  cases h.stands hb h₀ with
  | fresh hf =>
    rw [hf.state]
    nofun
  | @since mid before t e token v u hm hbef hl hmid hp =>
    subst hm
    cases hp with
    | early hh _ _ _ _ _ => exact active hh
    | renewing hh _ _ _ _ _ _ => exact active hh
    | released hh _ _ _ _ _ _ _ => exact active hh
    | expiring hh _ _ _ _ _ _ _ _ => exact active hh
    | ended _ _ _ hle _ _ hu _ =>
      obtain ⟨x, hx, htx, hxr⟩ := hused t e token (List.mem_append_right _ List.mem_cons_self)
        hl.issued (Nat.le_trans (Nat.le_of_lt (hl.renewal_lt hb)) hle)
      -- it was used since the last login, but that login was not used in time
      rcases List.mem_append.mp hx with hx | hx
      · exact absurd (hu x hx htx) (Nat.not_le_of_gt hxr)
      · rcases List.mem_cons.mp hx with hx | hx
        · exact absurd (Prod.mk.inj hx).2.symm (hl.not_used x)
        · exact absurd (hbef _ hx) (Nat.not_le_of_gt htx)

/-- In virtual time, after a login of a session with a refresh buffer:
up to the renewal's instant the session is active, and before it with the login's token and no
request. If the session is used strictly in between, it is renewed at that instant. If it is not
used until that instant is over, it has its token until that runs out, no token at that instant,
and neither a token nor a request after it until the next ping. So a session that is used
in time in each period is never inactive. -/
theorem used_sessions_renew (hb : 0 < settings.refreshBuffer.nanos)
    (h₀ : Begins settings start w₀) :
    (∀ log t v e token u mid now w, Passes settings start w₀ log t v →
      LogsIn settings t v e token u → Passes settings t u mid now w →
      (now ≤ renewal settings t token → w.session.state = .active) ∧
      (now < renewal settings t token →
        w.session.login = ⟨.active, token.accessToken, token.id⟩ ∧ requestTimes mid = []) ∧
      (∀ x, (x, .used x) ∈ mid → t < x → x < renewal settings t token →
        renewal settings t token < now →
        RenewedAt settings t token u (renewal settings t token) mid now w) ∧
      ((∀ x, (x, .used x) ∈ mid → x ≤ t ∨ renewal settings t token < x) →
        renewal settings t token ∉ requestTimes mid ∧
        (now < expiry t token →
          w.session.login = ⟨.active, token.accessToken, token.id⟩ ∧ requestTimes mid = []) ∧
        (expiry t token < now → LapsedAt settings t u (expiry t token) mid) ∧
        (¬ PingedFrom (expiry t token) mid → requestTimes mid = [] ∧
          (expiry t token < now → w.session.state = .inactive ∧ w.session.token = "")))) ∧
    ∀ log now w, Passes settings start w₀ log now w →
      (∀ t e token, (t, e) ∈ log → e.issued? = some token → renewal settings t token ≤ now →
        ∃ x, (x, .used x) ∈ log ∧ t < x ∧ x < renewal settings t token) →
      w.session.state ≠ .inactive := by
  refine ⟨fun log t v e token u mid now w hv hl hw => ?_, fun _ _ _ h => never_inactive hb h₀ h⟩
  have hsound := hv.sound h₀.sound
  have hp := hl.phase hsound ((hv.stands hb h₀).isOpen hl)
  have hu := hsound.step hl.timely hl.step
  have hlt := hl.renewal_lt hb
  refine ⟨active_until_renewal hb hl hu hp hw, held_before_renewal hb hl hp hw,
    fun x => renewed_of_used hb hl hu hp hw, fun hx => ?_⟩
  cases hw.lapses hb hl hu hp hx with
  | held hle hlogin hq =>
    exact ⟨by rw [hq]; nofun, fun _ => ⟨hlogin, hq⟩, fun h => absurd hle (Nat.not_le_of_gt h),
      fun _ => ⟨hq, fun h => absurd hle (Nat.not_le_of_gt h)⟩⟩
  | lapsed hle hstate htoken hq hlapse =>
    exact ⟨by rw [hq]; nofun, fun h => absurd hle (Nat.not_le_of_gt h), fun _ => hlapse,
      fun _ => ⟨hq, fun _ => ⟨hstate, htoken⟩⟩⟩
  | pinged hle hping hq hlapse =>
    exact ⟨fun hm => Nat.not_le_of_gt hlt (hq _ hm), fun h => absurd hle (Nat.not_le_of_gt h),
      fun _ => hlapse, fun h => absurd hping h⟩

namespace Sample

def credential : Credential := ⟨"key", "secret"⟩

def seconds (n : Nat) : Instant := (Span.ofSeconds n).nanos

/-- A task goes from the gate to the provider. -/
def reaching (task : Nat) (now : Instant) : List (Instant × Event Unit) :=
  [(now, .moved task (.credential (.ok credential)) now 0), (now, .moved task .none now 0),
    (now, .moved task .none now 0), (now, .moved task .none now 0)]

theorem reaching_passes (others : List (Stage Unit)) {s : Session Unit} {entry : Entry}
    {w₀ : Traffic Unit} {log : List (Instant × Event Unit)}
    (h : Passes settings start w₀ log now ⟨s, others ++ [.waiting entry]⟩)
    (ho : others = [] ∨ others = [.finished]) (hw : Stage.isWanted s entry) :
    Passes settings start w₀ (reaching others.length now ++ log) now
      ⟨s, others ++ [.requesting credential]⟩ := by
  have moved {tasks : List (Stage Unit)} {stage stage' : Stage Unit} {input : Input}
      {log : List (Instant × Event Unit)} (i : Nat)
      (h : Passes settings start w₀ log now ⟨s, tasks⟩) (hacc : input.Accepting settings)
      (hi : tasks[i]? = some stage)
      (hs : Stage.step? settings now 0 (gateFree ⟨s, tasks⟩) s stage input = some (s, stage')) :
      Passes settings start w₀ ((now, .moved i input now 0) :: log) now ⟨s, tasks.set i stage'⟩ :=
    h.act (.moved hacc) (.moved hi hs)
  have hentered : Stage.step? settings now 0 false s (.entered entry) .none = some (s, .admitted) := by
    simp [Stage.step?, hw]
  rcases ho with rfl | rfl
  · exact moved 0 (moved 0 (moved 0 (moved 0 h .none rfl rfl) .none rfl hentered) .none rfl rfl)
      (.credential rfl) rfl rfl
  · exact moved 1 (moved 1 (moved 1 (moved 1 h .none rfl rfl) .none rfl hentered) .none rfl rfl)
      (.credential rfl) rfl rfl

def issuing (task : Nat) (now : Instant) : Event Unit :=
  .moved task (.token (.issued Sample.token)) now 0

def pinging : List (Instant × Event Unit) :=
  reaching 0 0 ++ [(0, .moved 0 .none 0 0), (0, .called .ping)]

theorem pinging_passes : Passes settings 0 begun pinging 0
    ⟨begun.session, [.requesting credential]⟩ := by
  have h : Passes settings 0 begun [(0, .moved 0 .none 0 0), (0, .called .ping)] 0
      ⟨begun.session, [.waiting .ping]⟩ :=
    .act (.act .refl .pinged .called) (.moved .none) (.moved rfl rfl)
  exact reaching_passes [] h (.inl rfl) rfl

theorem logsIn (h : settings.refreshBuffer.nanos < Sample.token.lifetime.nanos) :
    LogsIn settings 0 ⟨begun.session, [.requesting credential]⟩ (issuing 0 0) Sample.token
      ⟨begun.session.succeed settings 0 Sample.token, [.finished]⟩ :=
  ⟨.moved (.token h), .moved rfl rfl, rfl⟩

theorem awaits {s : Session Unit} {tasks : List (Stage Unit)} {later : Instant}
    (ht : ∀ stage ∈ tasks, stage = .finished)
    (hk : ∀ kind ∈ [TimerKind.retry, .renew, .expire], (s.timer kind).due.all (later ≤ ·)) :
    Awaits ⟨s, tasks⟩ later := by
  refine ⟨ht, fun kind due hd => ?_⟩
  have hall := hk kind (by cases kind <;> simp)
  rw [hd] at hall
  exact of_decide_eq_true hall

/-- The session is used one second after its login. -/
def usedOnce (settings : SessionSettings) : Session Unit :=
  ((begun.session.succeed settings 0 Sample.token).use (seconds 1)).2

/-- The use, and the renewal by it. -/
def renewing : List (Instant × Event Unit) :=
  (seconds 585, issuing 1 (seconds 585)) :: (reaching 1 (seconds 585) ++
    [(seconds 585, .moved 1 .none (seconds 585) 0), (seconds 585, .moved 1 .none (seconds 585) 0),
      (seconds 585, .wentOff .renew), (seconds 1, .used (seconds 1))])

def renewed : Session Unit :=
  ((usedOnce .start).fire .renew).succeed .start (seconds 585) Sample.token

theorem renewing_passes : Passes .start 0 ⟨active, [.finished]⟩ renewing (seconds 586)
    ⟨renewed, [.finished, .finished]⟩ := by
  have h₁ : Passes .start 0 ⟨active, [.finished]⟩ [(seconds 1, .used (seconds 1))] (seconds 585)
      ⟨usedOnce .start, [.finished]⟩ :=
    .wait (.act (.wait .refl (by decide) (awaits (by simp) (by decide))) .used .used) (by decide)
      (awaits (by simp) (by decide))
  have h₂ : Passes .start 0 ⟨active, [.finished]⟩
      [(seconds 585, .wentOff .renew), (seconds 1, .used (seconds 1))] (seconds 585)
      ⟨(usedOnce .start).fire .renew, [.finished, .fired .renew 1]⟩ :=
    h₁.act (.wentOff rfl) (.wentOff rfl)
  have h₃ : Passes .start 0 ⟨active, [.finished]⟩
      [(seconds 585, .moved 1 .none (seconds 585) 0), (seconds 585, .moved 1 .none (seconds 585) 0),
        (seconds 585, .wentOff .renew), (seconds 1, .used (seconds 1))] (seconds 585)
      ⟨(usedOnce .start).fire .renew, [.finished, .waiting .login]⟩ :=
    .act (.act h₂ (.moved .none) (.moved rfl rfl)) (.moved .none) (.moved rfl rfl)
  have h₄ := reaching_passes [.finished] h₃ (.inr rfl) rfl
  exact .wait (.act h₄ (.moved (.token (by decide))) (.moved rfl rfl)) (by decide)
    (awaits (by simp) (by decide))

/-- Tokens are to be renewed when they run out. -/
def immediate : SessionSettings := { SessionSettings.start with refreshBuffer := .zero }

def expiring : List (Instant × Event Unit) :=
  [(seconds 600, .moved 1 .none (seconds 600) 0), (seconds 600, .moved 1 .none (seconds 600) 0),
    (seconds 600, .wentOff .expire), (seconds 1, .used (seconds 1))]

/-- The expiry goes off before the renewal, which it cancels. -/
theorem expiring_passes :
    Passes immediate 0 ⟨begun.session.succeed immediate 0 Sample.token, [.finished]⟩ expiring
      (seconds 601) ⟨((usedOnce immediate).fire .expire).expireLogin, [.finished, .finished]⟩ := by
  have h₁ : Passes immediate 0 ⟨begun.session.succeed immediate 0 Sample.token, [.finished]⟩
      [(seconds 1, .used (seconds 1))] (seconds 600) ⟨usedOnce immediate, [.finished]⟩ :=
    .wait (.act (.wait .refl (by decide) (awaits (by simp) (by decide))) .used .used) (by decide)
      (awaits (by simp) (by decide))
  have h₂ : Passes immediate 0 ⟨begun.session.succeed immediate 0 Sample.token, [.finished]⟩
      [(seconds 600, .wentOff .expire), (seconds 1, .used (seconds 1))] (seconds 600)
      ⟨(usedOnce immediate).fire .expire, [.finished, .fired .expire 1]⟩ :=
    h₁.act (.wentOff rfl) (.wentOff rfl)
  have h₃ : Passes immediate 0 ⟨begun.session.succeed immediate 0 Sample.token, [.finished]⟩
      expiring (seconds 600)
      ⟨((usedOnce immediate).fire .expire).expireLogin, [.finished, .finished]⟩ :=
    .act (.act h₂ (.moved .none) (.moved rfl rfl)) (.moved .none) (.moved rfl rfl)
  exact .wait h₃ (by decide) (awaits (by simp) (by decide))

end Sample

/-- A session that is used one second after its login asks for its next token 15 seconds before
the first one runs out. -/
theorem used_sessions_renew_once : ∃ mid w,
    LogsIn .start 0 ⟨Sample.begun.session, [.requesting Sample.credential]⟩ (Sample.issuing 0 0)
      Sample.token ⟨Sample.active, [.finished]⟩ ∧
    Passes .start 0 ⟨Sample.active, [.finished]⟩ mid (Sample.seconds 586) w ∧
    RenewedAt .start 0 Sample.token ⟨Sample.active, [.finished]⟩ (Sample.seconds 585) mid
      (Sample.seconds 586) w := by
  have h₀ : Begins .start 0 Sample.begun := .made
  have hb : 0 < SessionSettings.start.refreshBuffer.nanos := by decide
  have hl : LogsIn .start 0 ⟨Sample.begun.session, [.requesting Sample.credential]⟩
      (Sample.issuing 0 0) Sample.token ⟨Sample.active, [.finished]⟩ := Sample.logsIn (by decide)
  obtain ⟨h, -⟩ := used_sessions_renew hb h₀
  obtain ⟨-, -, hr, -⟩ := h _ _ _ _ _ _ _ _ _ Sample.pinging_passes hl Sample.renewing_passes
  have hused : (Sample.seconds 1, .used (Sample.seconds 1)) ∈ Sample.renewing := by
    simp [Sample.renewing, Sample.reaching]
  exact ⟨_, _, hl, Sample.renewing_passes, hr _ hused (by decide) (by decide) (by decide)⟩

/-- Without a refresh buffer, the renewal and the expiry are due at the same instant. A session
that is used is inactive after it, and nobody has asked for another token. -/
theorem unbuffered_session_lapses : ∃ w₀ : Traffic Unit, ∃ log v e u mid now w x,
    Begins Sample.immediate 0 w₀ ∧ Passes Sample.immediate 0 w₀ log 0 v ∧
      LogsIn Sample.immediate 0 v e Sample.token u ∧ Passes Sample.immediate 0 u mid now w ∧
      (x, .used x) ∈ mid ∧ 0 < x ∧ x < renewal Sample.immediate 0 Sample.token ∧
      renewal Sample.immediate 0 Sample.token < now ∧ requestTimes mid = [] ∧
      w.session.state = .inactive := by
  have hused : (Sample.seconds 1, .used (Sample.seconds 1)) ∈ Sample.expiring := by
    simp [Sample.expiring]
  exact ⟨Sample.begun, _, _, _, _, _, _, _, _, .made, Sample.pinging_passes,
    Sample.logsIn (by decide), Sample.expiring_passes, hused, by decide, by decide, by decide, rfl, rfl⟩

end ClusterOperator.Provider.Traffic
