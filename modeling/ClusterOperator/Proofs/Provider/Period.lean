import ClusterOperator.Proofs.Provider.Timely

/-!
# From one login to the next

A login arms a renewal and an expiry. If the session is used before the renewal is due, the
renewal logs in again, at that very instant. If it is not, the token runs out, and
nothing happens until the next ping.
-/

namespace ClusterOperator.Provider.Traffic

variable {S : Type} {settings : SessionSettings} {w w' u v : Traffic S} {e : Event S}
  {t now later : Instant} {token : IssuedToken} {mid log : List (Instant × Event S)}
  {alone : Nat → Prop} {p p' : Prop}

/-- When a token of a login runs out. -/
def expiry (t : Instant) (token : IssuedToken) : Instant := t + token.lifetime.nanos

/-- When a login is renewed, if it is used. -/
def renewal (settings : SessionSettings) (t : Instant) (token : IssuedToken) : Instant :=
  t + (token.lifetime.minus settings.refreshBuffer).nanos

/-! ## Phases of a period -/

/-- The session has the token of a login, and knows whether it was used since. -/
structure Held (t : Instant) (token : IssuedToken) (mid : List (Instant × Event S))
    (w : Traffic S) : Prop where
  login : w.session.login = ⟨.active, token.accessToken, token.id⟩
  refreshed : w.session.lastRefresh = some t
  used : w.session.isUsed ↔ ∃ x, (x, .used x) ∈ mid ∧ t < x
  retry : w.session.retry.due = none

theorem Held.needsLogin (h : Held t token mid w) : w.session.state.needsLogin = false :=
  congrArg (fun login : Login => login.state.needsLogin) h.login

theorem isUsed_of_same {s s' : Session S} (hu : s'.lastUse = s.lastUse)
    (hr : s'.lastRefresh = s.lastRefresh) : s'.isUsed = s.isUsed := by
  unfold Session.isUsed
  rw [hu, hr]

theorem Held.of_same (h : Held t token mid w) (hl : w'.session.login = w.session.login)
    (hr : w'.session.lastRefresh = w.session.lastRefresh)
    (hu : w'.session.lastUse = w.session.lastUse) (hd : w'.session.retry.due = w.session.retry.due)
    (he : ∀ x, e ≠ .used x) : Held t token ((now, e) :: mid) w' where
  login := hl.trans h.login
  refreshed := hr.trans h.refreshed
  used := by
    rw [isUsed_of_same hu hr, h.used]
    refine exists_congr fun x => and_congr_left fun _ => ⟨.tail _, fun hm => ?_⟩
    rcases List.mem_cons.mp hm with hx | hm
    · exact absurd (Prod.mk.inj hx).2.symm (he x)
    · exact hm
  retry := hd.trans h.retry

theorem Held.aside (h : Held t token mid w) (ha : Aside now w e w')
    (hlog : ∀ x ∈ mid, x.1 ≤ now) : Held t token ((now, e) :: mid) w' := by
  have hd : w'.session.retry = w.session.retry := ha.timer .retry
  rcases ha.used with ⟨hu, he⟩ | ⟨hu, rfl⟩
  · exact h.of_same ha.login ha.refreshed hu (by rw [hd]) he
  · have hr : w'.session.lastRefresh = some t := ha.refreshed.trans h.refreshed
    refine ⟨ha.login.trans h.login, hr, ?_, by rw [hd, h.retry]⟩
    have hs : w'.session.isUsed ↔ t < now := by
      unfold Session.isUsed
      rw [hu, hr]
      exact decide_eq_true_iff
    refine hs.trans ⟨fun hlt => ⟨now, List.mem_cons_self, hlt⟩, fun ⟨x, hm, hlt⟩ => ?_⟩
    rcases List.mem_cons.mp hm with hx | hm
    · obtain ⟨rfl, -⟩ := Prod.mk.inj hx
      exact hlt
    · exact Nat.lt_of_lt_of_le hlt (hlog _ hm)

/-- How far a renewal has got, and when it asked for a token. -/
inductive Renews (s : Session S) (now : Instant) : Stage S → List Instant → Prop
  | fired : Renews s now (.fired .renew s.renew.generation) []
  | renewing : Renews s now .renewing []
  | waiting : s.isUsed → Renews s now (.waiting .login) []
  | entered : s.isUsed → Renews s now (.entered .login) []
  | admitted : s.isUsed → Renews s now .admitted []
  | reading {source : S} : s.isUsed → Renews s now (.reading source) []
  | requesting {c : Credential} : s.isUsed → Renews s now (.requesting c) [now]

/-- A ping that came at an instant or after it. -/
def PingedFrom (x : Instant) (log : List (Instant × Event S)) : Prop :=
  ∃ y, (y, .called .ping) ∈ log ∧ x ≤ y

/-- No token was handed out between a login and the instant of its renewal. -/
def UnusedUntil (t r : Instant) (log : List (Instant × Event S)) : Prop :=
  ∀ x, (x, .used x) ∈ log → t < x → r ≤ x

/-- The token ran out at an instant. -/
def LapsedAt (settings : SessionSettings) (t : Instant) (u : Traffic S) (x : Instant)
    (log : List (Instant × Event S)) : Prop :=
  ∃ after before w, log = after ++ before ∧ Passes settings t u before x w ∧
    w.session.state = .inactive ∧ w.session.token = ""

theorem PingedFrom.cons {x : Instant} {a : Instant × Event S} (h : PingedFrom x mid) :
    PingedFrom x (a :: mid) :=
  h.imp fun _ h => ⟨.tail _ h.1, h.2⟩

theorem UnusedUntil.cons {r : Instant} (h : UnusedUntil t r mid) (hr : r ≤ now) :
    UnusedUntil t r ((now, e) :: mid) := by
  intro x hm ht
  rcases List.mem_cons.mp hm with hx | hm
  · obtain ⟨rfl, -⟩ := Prod.mk.inj hx
    exact hr
  · exact h x hm ht

theorem LapsedAt.cons {x : Instant} {a : Instant × Event S} (h : LapsedAt settings t u x mid) :
    LapsedAt settings t u x (a :: mid) := by
  obtain ⟨after, before, w, rfl, hw⟩ := h
  exact ⟨a :: after, before, w, rfl, hw⟩

/-- What has become of a login at `t`, until the next one. -/
inductive Phase (settings : SessionSettings) (t : Instant) (token : IssuedToken) (u : Traffic S)
    (mid : List (Instant × Event S)) (now : Instant) (w : Traffic S) : Prop
  | early : Held t token mid w → w.session.renew.due = some (renewal settings t token) →
    w.session.expire.due = some (expiry t token) → now ≤ renewal settings t token →
    Calm (fun _ => False) True w → requestTimes mid = [] → Phase settings t token u mid now w
  | renewing {i : Nat} {stage : Stage S} : Held t token mid w → w.session.renew.due = none →
    w.session.expire.due = some (expiry t token) → now = renewal settings t token →
    Calm (· = i) True w → w.tasks[i]? = some stage →
    Renews w.session now stage (requestTimes mid) → Phase settings t token u mid now w
  /-- The renewal found the session unused. -/
  | released : Held t token mid w → w.session.renew.due = none →
    w.session.expire.due = some (expiry t token) → renewal settings t token ≤ now →
    now ≤ expiry t token →
    Calm (fun _ => False) (now < expiry t token ∨ PingedFrom (expiry t token) mid) w →
    requestTimes mid = [] → UnusedUntil t (renewal settings t token) mid →
    Phase settings t token u mid now w
  | expiring {i : Nat} {stage : Stage S} : Held t token mid w → w.session.renew.due = none →
    w.session.expire.due = none → now = expiry t token →
    Calm (· = i) (PingedFrom (expiry t token) mid) w → w.tasks[i]? = some stage →
    (stage = .fired .expire w.session.expire.generation ∨ stage = .expiring) →
    requestTimes mid = [] → UnusedUntil t (renewal settings t token) mid →
    Phase settings t token u mid now w
  | ended : w.session.state = .inactive → w.session.token = "" →
    (∀ kind, (w.session.timer kind).due = none) → expiry t token ≤ now →
    Open (PingedFrom (expiry t token) mid) w →
    (∀ x ∈ requestTimes mid, expiry t token ≤ x ∧ PingedFrom (expiry t token) mid) →
    UnusedUntil t (renewal settings t token) mid → LapsedAt settings t u (expiry t token) mid →
    Phase settings t token u mid now w

/-! ## Steps within a period -/

theorem Held.wentOff {kind : TimerKind} (h : Held t token mid w)
    (hs : Step settings w (.wentOff kind) w') (hk : kind ≠ .retry) :
    Held t token ((now, .wentOff kind) :: mid) w' := by
  have hw := hs.session_of_wentOff
  refine h.of_same (by rw [hw, Session.login_fire]) ?_ ?_ ?_ nofun <;> rw [hw] <;> cases kind
  all_goals first | rfl | exact absurd rfl hk

theorem Awaits.calm (h : Awaits w later) : Calm alone p w := fun i stage _ hs =>
  .inl (by rw [h.settled stage (List.mem_of_getElem? hs)]; trivial)

theorem Phase.wait (h : Phase settings t token u mid now w) (hl : now < later)
    (ha : Awaits w later) : Phase settings t token u mid later w := by
  cases h with
  | early hh hr he _ _ hq => exact .early hh hr he (ha.undue .renew _ hr) ha.calm hq
  | renewing _ _ _ _ _ hi hn =>
    obtain rfl := ha.settled _ (List.mem_of_getElem? hi)
    cases hn
  | released hh hr he hle _ _ hq hu =>
    exact .released hh hr he (Nat.le_trans hle (Nat.le_of_lt hl)) (ha.undue .expire _ he) ha.calm hq hu
  | expiring _ _ _ _ _ hi hs =>
    obtain rfl := ha.settled _ (List.mem_of_getElem? hi)
    rcases hs with hs | hs <;> cases hs
  | ended hs ht hd hle hc hq hu hx =>
    exact .ended hs ht hd (Nat.le_trans hle (Nat.le_of_lt hl)) hc hq hu hx

/-- A renewal gets on, or ends because the session was not used. -/
theorem Renews.step {s s' : Session S} {stage stage' : Stage S} {gateFree : Bool} {i : Nat}
    {input : Input} {draw : Float} (h : Renews s now stage (requestTimes mid))
    (hm : Stage.Moves settings now draw gateFree s stage input s' stage')
    (hi : input.Accepting settings) (hn : ∀ token, input ≠ .token (.issued token)) : s' = s ∧
      (Renews s now stage' (requestTimes ((now, .moved i input now draw) :: mid)) ∨
        stage' = .finished ∧ s.isUsed = false ∧
          requestTimes ((now, .moved i input now draw) :: mid) = []) := by
  generalize hq : requestTimes mid = times at h
  have unasked : ∀ {input : Input}, (Event.moved i input now draw : Event S).asks = false →
      requestTimes ((now, .moved i input now draw) :: mid) = times := fun ha =>
    (requestTimes_cons_of_not_asks ha).trans hq
  cases h with
  | fired =>
    cases hm with
    | detached _ => exact ⟨rfl, .inl (by rw [unasked rfl]; exact .renewing)⟩
    | outdated hg => exact absurd rfl hg
  | renewing =>
    cases hm with
    | renewed hu => exact ⟨rfl, .inl (by rw [unasked rfl]; exact .waiting hu)⟩
    | idle hu => exact ⟨rfl, .inr ⟨rfl, hu, unasked rfl⟩⟩
  | waiting hu =>
    cases hm with
    | passed _ => exact ⟨rfl, .inl (by rw [unasked rfl]; exact .entered hu)⟩
  | entered hu =>
    cases hm with
    | admitted _ => exact ⟨rfl, .inl (by rw [unasked rfl]; exact .admitted hu)⟩
    | superseded hw => cases hw
  | admitted hu =>
    cases hm with
    | begun => exact ⟨rfl, .inl (by rw [unasked rfl]; exact .reading hu)⟩
  | reading hu =>
    cases hm with
    | @supplied _ c hz =>
      have ha : (Event.moved i (.credential (.ok c)) now draw : Event S).asks := by
        simp [Event.asks, hz]
      exact ⟨rfl, .inl (by rw [requestTimes_cons_of_asks ha, hq]; exact .requesting hu)⟩
    | unconfigured hz =>
      cases hi with
      | credential hz' =>
        rw [hz] at hz'
        cases hz'
    | unread => cases hi
  | requesting hu =>
    cases hm with
    | @issued _ token => exact absurd rfl (hn token)
    | refused => cases hi
    | failed => cases hi

theorem Renews.mono {s s' : Session S} {stage : Stage S} {times : List Instant}
    (h : Renews s now stage times) (hg : s'.renew = s.renew) (hu : s.isUsed → s'.isUsed) :
    Renews s' now stage times := by
  cases h with
  | fired =>
    rw [← hg]
    exact .fired
  | renewing => exact .renewing
  | waiting h => exact .waiting (hu h)
  | entered h => exact .entered (hu h)
  | admitted h => exact .admitted (hu h)
  | reading h => exact .reading (hu h)
  | requesting h => exact .requesting (hu h)

theorem Held.isUsed_mono {a : Instant × Event S} (h : Held t token mid w)
    (h' : Held t token (a :: mid) w') (hu : w.session.isUsed) : w'.session.isUsed := by
  obtain ⟨x, hm, hx⟩ := h.used.mp hu
  exact h'.used.mpr ⟨x, .tail _ hm, hx⟩

theorem Event.Timely.accepting {i : Nat} {input : Input} {x : Instant} {draw : Float}
    (h : Event.Timely settings now w (.moved i input x draw)) : x = now ∧ input.Accepting settings := by
  cases h with
  | moved hi => exact ⟨rfl, hi⟩

/-- The other tasks stay as they are while one of them moves and leaves the session alone. -/
theorem Step.calm_of_alone {i : Nat} {input : Input} {x : Instant} {draw : Float}
    (h : Step settings w (.moved i input x draw) w') (hc : Calm (· = i) p w) :
    Calm (· = i) p w' := by
  intro j stage hj hs
  rcases h.task_before hs with hb | ⟨_, _, _, _, he, -, -⟩ | ⟨_, he, -, -⟩ | ⟨_, he, -, -⟩
  · exact (hc j stage hj hb).imp_left (·.mono h.generation_le)
  · cases he
    exact absurd rfl hj
  · cases he
  · cases he

/-- The task that was singled out is over, and was the only one. -/
theorem Calm.all {i : Nat} (h : Calm (· = i) p w) (hi : w.tasks[i]? = some .finished) :
    Calm (fun _ => False) p w := by
  intro j stage _ hj
  by_cases hij : j = i
  · subst hij
    obtain rfl := Option.some.inj (hi.symm.trans hj)
    exact .inl trivial
  · exact h j stage hij hj

theorem Calm.mono {q : Prop} (h : Calm alone p w) (hp : p → q) : Calm alone q w :=
  fun i stage hi hs => (h i stage hi hs).imp_right fun ⟨h, hping⟩ => ⟨hp h, hping⟩

/-- With a token nothing is to be retried. -/
theorem Held.wentOff_cases {kind : TimerKind} (h : Held t token mid w)
    (ht : Event.Timely settings now w (.wentOff kind)) :
    (kind = .renew ∧ w.session.renew.due = some now) ∨
      (kind = .expire ∧ w.session.expire.due = some now) := by
  cases ht with
  | wentOff hd =>
    cases kind with
    | retry => cases h.retry.symm.trans hd
    | renew => exact .inl ⟨rfl, hd⟩
    | expire => exact .inr ⟨rfl, hd⟩

/-- The expiry gets on, or takes the token. -/
theorem Phase.expiry_moved {i : Nat} {stage : Stage S} {input : Input} {draw : Float}
    (hpass : Passes settings t u mid now w)
    (ht : Event.Timely settings now w (.moved i input now draw))
    (hs : Step settings w (.moved i input now draw) w') (hh : Held t token mid w)
    (hr : w.session.renew.due = none) (he : w.session.expire.due = none)
    (hnow : now = expiry t token) (hc : Calm (· = i) (PingedFrom (expiry t token) mid) w)
    (hi : w.tasks[i]? = some stage)
    (hst : stage = .fired .expire w.session.expire.generation ∨ stage = .expiring)
    (hq : requestTimes mid = [])
    (hu : UnusedUntil t (renewal settings t token) ((now, .moved i input now draw) :: mid)) :
    Phase settings t token u ((now, .moved i input now draw) :: mid) now w' := by
  obtain ⟨stage₀, stage', hi₀, hi', hmv⟩ := hs.moves
  obtain rfl := Option.some.inj (hi.symm.trans hi₀)
  have hc' : Calm (· = i) (PingedFrom (expiry t token) ((now, .moved i input now draw) :: mid)) w' :=
    (hs.calm_of_alone hc).mono .cons
  have hpass' := hpass.act ht hs
  generalize hw : w'.session = s' at hmv
  rcases hst with rfl | rfl
  · cases hmv with
    | outdated hg => exact absurd rfl hg
    | detached _ =>
      exact .expiring (hh.of_same (by rw [hw]) (by rw [hw]) (by rw [hw]) (by rw [hw]) nofun)
        (by rw [hw, hr]) (by rw [hw, he]) hnow hc' hi' (.inr rfl)
        ((requestTimes_cons_of_not_asks rfl).trans hq) hu
  · cases hmv with
    | expired =>
      have hl : w'.session.login = ⟨.inactive, "", token.id⟩ := by
        have hact : w.session.state = .active := congrArg Login.state hh.login
        have hid : w.session.tokenId = token.id := congrArg Login.tokenId hh.login
        rw [hw, Session.login_expireLogin, if_pos hact, hid]
      have hstate : w'.session.state = .inactive := congrArg Login.state hl
      have htoken : w'.session.token = "" := congrArg Login.token hl
      have hq' : requestTimes ((now, .moved i .none now draw) :: mid) = [] :=
        (requestTimes_cons_of_not_asks rfl).trans hq
      refine .ended hstate htoken ?_ (Nat.le_of_eq hnow.symm) (hc'.all hi').isOpen
        (by rw [hq']; nofun) hu ⟨[], _, w', rfl, hnow ▸ hpass', hstate, htoken⟩
      rw [hw]
      rintro (_ | _ | _)
      · exact hh.retry
      · rfl
      · exact he

section
variable (hlog : ∀ x ∈ mid, x.1 ≤ now) (hlt : renewal settings t token < expiry t token)
  (ht : e.Timely settings now w) (hs : Step settings w e w') (hn : e.issued? = none)

include hlog hlt ht hs in
theorem Phase.step_early (hh : Held t token mid w)
    (hr : w.session.renew.due = some (renewal settings t token))
    (he : w.session.expire.due = some (expiry t token)) (hle : now ≤ renewal settings t token)
    (hc : Calm (fun _ => False) True w) (hq : requestTimes mid = []) :
    Phase settings t token u ((now, e) :: mid) now w' := by
  by_cases hk : ∃ kind, e = .wentOff kind
  · obtain ⟨kind, rfl⟩ := hk
    have hw := hs.session_of_wentOff
    rcases hh.wentOff_cases ht with ⟨rfl, hd⟩ | ⟨rfl, hd⟩
    · obtain rfl : renewal settings t token = now := Option.some.inj (hr.symm.trans hd)
      refine .renewing (hh.wentOff hs nofun) (by rw [hw]; rfl) (by rw [hw]; exact he) rfl
        (hs.calm_of_wentOff hc) hs.wentOff_task ?_
      rw [requestTimes_cons_of_not_asks rfl, hq, hw]
      exact .fired
    · have hx : expiry t token = now := Option.some.inj (he.symm.trans hd)
      exact absurd hx.symm (Nat.ne_of_lt (Nat.lt_of_le_of_lt hle hlt))
  · obtain ⟨hc', ha⟩ := hs.aside ht hc hh.needsLogin (fun kind hk' => hk ⟨kind, hk'⟩) (fun _ h => h.elim)
      (fun _ => trivial)
    exact .early (hh.aside ha hlog) (by rw [← hr]; exact congrArg _ (ha.timer .renew))
      (by rw [← he]; exact congrArg _ (ha.timer .expire)) hle hc'
      ((requestTimes_cons_of_not_asks ha.unasked).trans hq)

include hlog hlt ht hs hn in
theorem Phase.step_renewing {i : Nat} {stage : Stage S} (hh : Held t token mid w)
    (hr : w.session.renew.due = none) (he : w.session.expire.due = some (expiry t token))
    (hnow : now = renewal settings t token) (hc : Calm (· = i) True w)
    (hi : w.tasks[i]? = some stage) (hp : Renews w.session now stage (requestTimes mid)) :
    Phase settings t token u ((now, e) :: mid) now w' := by
  by_cases hm : e.isMoveOf i
  · obtain ⟨input, x, draw, rfl⟩ := hm
    obtain ⟨rfl, hacc⟩ := ht.accepting
    obtain ⟨stage₀, stage', hi₀, hi', hmv⟩ := hs.moves
    obtain rfl := Option.some.inj (hi.symm.trans hi₀)
    obtain ⟨hsame, hp' | ⟨rfl, hu, hq⟩⟩ := hp.step (i := i) hmv hacc (Event.not_issued hn)
    · refine .renewing ?_ (by rw [hsame, hr]) (by rw [hsame, he]) hnow (hs.calm_of_alone hc) hi'
        (by rw [hsame]; exact hp')
      exact hh.of_same (by rw [hsame]) (by rw [hsame]) (by rw [hsame]) (by rw [hsame]) nofun
    · have hh' : Held t token ((x, .moved i input x draw) :: mid) w' :=
        hh.of_same (by rw [hsame]) (by rw [hsame]) (by rw [hsame]) (by rw [hsame]) nofun
      have hx : x < expiry t token := hnow ▸ hlt
      refine .released hh' (by rw [hsame, hr]) (by rw [hsame, he]) (Nat.le_of_eq hnow.symm)
        (Nat.le_of_lt hx) (((hs.calm_of_alone hc).all hi').mono fun _ => .inl hx) hq ?_
      -- the session would be used otherwise
      intro y hy hty
      have hu' := hh'.used.mpr ⟨y, hy, hty⟩
      rw [hsame, hu] at hu'
      cases hu'
  · have hk : ∀ kind, e ≠ .wentOff kind := by
      rintro kind rfl
      rcases hh.wentOff_cases ht with ⟨-, hd⟩ | ⟨-, hd⟩
      · cases hr.symm.trans hd
      · have hx : expiry t token = now := Option.some.inj (he.symm.trans hd)
        exact absurd (hx.trans hnow).symm (Nat.ne_of_lt hlt)
    obtain ⟨hc', ha⟩ := hs.aside ht hc hh.needsLogin hk (fun j hj => hj ▸ hm) (fun _ => trivial)
    have hh' := hh.aside ha hlog
    refine .renewing hh' (by rw [← hr]; exact congrArg _ (ha.timer .renew))
      (by rw [← he]; exact congrArg _ (ha.timer .expire)) hnow hc' (hs.task_kept hm hi) ?_
    rw [requestTimes_cons_of_not_asks ha.unasked]
    exact hp.mono (ha.timer .renew) (hh.isUsed_mono hh')

include hlog ht hs in
theorem Phase.step_released (hh : Held t token mid w) (hr : w.session.renew.due = none)
    (he : w.session.expire.due = some (expiry t token)) (hle : renewal settings t token ≤ now)
    (hle' : now ≤ expiry t token)
    (hc : Calm (fun _ => False) (now < expiry t token ∨ PingedFrom (expiry t token) mid) w)
    (hq : requestTimes mid = []) (hu : UnusedUntil t (renewal settings t token) mid) :
    Phase settings t token u ((now, e) :: mid) now w' := by
  by_cases hk : ∃ kind, e = .wentOff kind
  · obtain ⟨kind, rfl⟩ := hk
    have hw := hs.session_of_wentOff
    rcases hh.wentOff_cases ht with ⟨rfl, hd⟩ | ⟨rfl, hd⟩
    · cases hr.symm.trans hd
    · obtain rfl : expiry t token = now := Option.some.inj (he.symm.trans hd)
      have hc' := hc.mono fun h => h.resolve_left (Nat.lt_irrefl _)
      exact .expiring (hh.wentOff hs nofun) (by rw [hw]; exact hr) (by rw [hw]; rfl) rfl
        ((hs.calm_of_wentOff hc').mono .cons) hs.wentOff_task (.inl (by rw [hw]; rfl))
        ((requestTimes_cons_of_not_asks rfl).trans hq) (hu.cons hle)
  · have hp : (now < expiry t token ∨ PingedFrom (expiry t token) mid) ∨ e = .called .ping →
        now < expiry t token ∨ PingedFrom (expiry t token) ((now, e) :: mid) := by
      rintro (h | rfl)
      · exact h.imp_right .cons
      · exact (Nat.lt_or_ge now (expiry t token)).imp_right fun hx => ⟨now, List.mem_cons_self, hx⟩
    obtain ⟨hc', ha⟩ := hs.aside ht hc hh.needsLogin (fun kind hk' => hk ⟨kind, hk'⟩)
      (fun _ h => h.elim) hp
    exact .released (hh.aside ha hlog) (by rw [← hr]; exact congrArg _ (ha.timer .renew))
      (by rw [← he]; exact congrArg _ (ha.timer .expire)) hle hle' hc'
      ((requestTimes_cons_of_not_asks ha.unasked).trans hq) (hu.cons hle)

include hlt ht hs in
theorem Phase.step_expiring {i : Nat} {stage : Stage S} (hpass : Passes settings t u mid now w)
    (hh : Held t token mid w) (hr : w.session.renew.due = none)
    (he : w.session.expire.due = none) (hnow : now = expiry t token)
    (hc : Calm (· = i) (PingedFrom (expiry t token) mid) w) (hi : w.tasks[i]? = some stage)
    (hst : stage = .fired .expire w.session.expire.generation ∨ stage = .expiring)
    (hq : requestTimes mid = []) (hu : UnusedUntil t (renewal settings t token) mid) :
    Phase settings t token u ((now, e) :: mid) now w' := by
  have hu' : UnusedUntil t (renewal settings t token) ((now, e) :: mid) :=
    hu.cons (hnow ▸ Nat.le_of_lt hlt)
  by_cases hm : e.isMoveOf i
  · obtain ⟨input, x, draw, rfl⟩ := hm
    obtain ⟨rfl, -⟩ := ht.accepting
    exact .expiry_moved hpass ht hs hh hr he hnow hc hi hst hq hu'
  · have hk : ∀ kind, e ≠ .wentOff kind := by
      rintro kind rfl
      rcases hh.wentOff_cases ht with ⟨-, hd⟩ | ⟨-, hd⟩
      · cases hr.symm.trans hd
      · cases he.symm.trans hd
    have hp : PingedFrom (expiry t token) mid ∨ e = .called .ping →
        PingedFrom (expiry t token) ((now, e) :: mid) := by
      rintro (h | rfl)
      · exact h.cons
      · exact ⟨now, List.mem_cons_self, Nat.le_of_eq hnow.symm⟩
    obtain ⟨hc', ha⟩ := hs.aside ht hc hh.needsLogin hk (fun j hj => hj ▸ hm) hp
    have hx : w'.session.expire = w.session.expire := ha.timer .expire
    exact .expiring (hh.aside ha hpass.until) (by rw [← hr]; exact congrArg _ (ha.timer .renew))
      (by rw [hx, he]) hnow hc' (hs.task_kept hm hi) (by rw [hx]; exact hst)
      ((requestTimes_cons_of_not_asks ha.unasked).trans hq) hu'

include hlt ht hs hn in
theorem Phase.step_ended (hstate : w.session.state = .inactive) (htok : w.session.token = "")
    (hd : ∀ kind, (w.session.timer kind).due = none) (hle : expiry t token ≤ now)
    (ho : Open (PingedFrom (expiry t token) mid) w)
    (hq : ∀ x ∈ requestTimes mid, expiry t token ≤ x ∧ PingedFrom (expiry t token) mid)
    (hu : UnusedUntil t (renewal settings t token) mid)
    (hx : LapsedAt settings t u (expiry t token) mid) :
    Phase settings t token u ((now, e) :: mid) now w' := by
  have hk : ∀ kind, e ≠ .wentOff kind := by
    rintro kind rfl
    cases ht with
    | wentOff hd' => cases (hd kind).symm.trans hd'
  have hp : PingedFrom (expiry t token) mid ∨ e = .called .ping →
      PingedFrom (expiry t token) ((now, e) :: mid) := by
    rintro (h | rfl)
    · exact h.cons
    · exact ⟨now, List.mem_cons_self, hle⟩
  obtain ⟨ho', hl, htimer, ha⟩ := hs.beside ht ho hn hk hp
  have hstate' : w'.session.state = w.session.state := congrArg Login.state hl
  have htok' : w'.session.token = w.session.token := congrArg Login.token hl
  refine .ended (hstate'.trans hstate) (htok'.trans htok) (fun kind => by rw [htimer, hd]) hle ho' ?_
    (hu.cons (Nat.le_trans (Nat.le_of_lt hlt) hle)) hx.cons
  intro x hx
  by_cases he : e.asks
  · rw [requestTimes_cons_of_asks he] at hx
    rcases List.mem_cons.mp hx with rfl | hx
    · exact ⟨hle, (ha he).cons⟩
    · exact (hq x hx).imp_right .cons
  · rw [requestTimes_cons_of_not_asks (Bool.eq_false_iff.mpr he)] at hx
    exact (hq x hx).imp_right .cons

include hlt ht hs hn in
/-- Each phase goes on or is followed by the next one, until a login succeeds. -/
theorem Phase.step (h : Phase settings t token u mid now w) (hpass : Passes settings t u mid now w) :
    Phase settings t token u ((now, e) :: mid) now w' := by
  cases h with
  | early hh hr he hle hc hq => exact .step_early hpass.until hlt ht hs hh hr he hle hc hq
  | renewing hh hr he hnow hc hi hp =>
    exact .step_renewing hpass.until hlt ht hs hn hh hr he hnow hc hi hp
  | released hh hr he hle hle' hc hq hu =>
    exact .step_released hpass.until ht hs hh hr he hle hle' hc hq hu
  | expiring hh hr he hnow hc hi hst hq hu =>
    exact .step_expiring hlt ht hs hpass hh hr he hnow hc hi hst hq hu
  | ended hstate htok hd hle ho hq hu hx =>
    exact .step_ended hlt ht hs hn hstate htok hd hle ho hq hu hx

end

/-! ## From period to period -/

/-- A login starts a period. -/
theorem phase_of_login (ht : e.Timely settings now w) (hs : Step settings w e w')
    (hi : e.issued? = some token) (hone : w.OneAtGate) (ho : Open True w)
    (hu : ∀ x, w.session.lastUse = some x → x ≤ now) :
    Phase settings now token w' [] now w' := by
  have hc := hs.calm_of_issued hone ho hi
  obtain ⟨i, c, x, draw, rfl, -, -, hw⟩ := hs.moves_of_issued hi
  obtain ⟨rfl, -⟩ := ht.accepting
  have hh : Held x token [] w' := by
    refine ⟨by rw [hw, Session.login_succeed], by rw [hw]; rfl, ⟨fun h => ?_, nofun⟩, by rw [hw]; rfl⟩
    have hl : w'.session.lastUse = w.session.lastUse := by rw [hw]; rfl
    have hr : w'.session.lastRefresh = some x := by rw [hw]; rfl
    unfold Session.isUsed at h
    rw [hl, hr] at h
    cases hx : w.session.lastUse with
    | none =>
      rw [hx] at h
      cases h
    | some y =>
      rw [hx] at h
      exact absurd (of_decide_eq_true h) (Nat.not_lt_of_ge (hu y hx))
  exact .early hh (by rw [hw]; rfl) (by rw [hw]; rfl) (Nat.le_add_right _ _) hc rfl

/-- A login comes of a renewal, or of a ping after the token ran out. -/
theorem Phase.login_cases {token' : IssuedToken} (h : Phase settings t token u mid now w)
    (hs : Step settings w e w') (hi : e.issued? = some token') : Open True w ∧
      ((now = renewal settings t token ∧ requestTimes mid = [now] ∧
        w.session.login = ⟨.active, token.accessToken, token.id⟩ ∧ ∃ x, (x, .used x) ∈ mid ∧ t < x) ∨
      (expiry t token ≤ now ∧ UnusedUntil t (renewal settings t token) mid ∧
        (∀ x ∈ requestTimes mid, expiry t token ≤ x) ∧ PingedFrom (expiry t token) mid ∧
        LapsedAt settings t u (expiry t token) mid)) := by
  obtain ⟨j, c, x, draw, rfl, hj, -, -⟩ := hs.moves_of_issued hi
  have absent : ∀ {alone : Nat → Prop} {p : Prop}, Calm alone p w → ¬ alone j → False :=
    fun hc hn => by rcases hc j _ hn hj with hst | ⟨-, hping⟩ <;> contradiction
  cases h with
  | early _ _ _ _ hc _ => exact (absent hc id).elim
  | @renewing i stage hh _ _ hnow hc hi hp =>
    by_cases hij : j = i
    · subst hij
      obtain rfl := Option.some.inj (hj.symm.trans hi)
      generalize hq : requestTimes mid = times at hp
      cases hp with
      | requesting hu =>
        refine ⟨fun k stage hk => ?_, .inl ⟨hnow, rfl, hh.login, hh.used.mp hu⟩⟩
        by_cases hkj : k = j
        · subst hkj
          obtain rfl := Option.some.inj (hj.symm.trans hk)
          exact .inr ⟨trivial, .inr (.inr (.inr rfl))⟩
        · exact (hc k stage hkj hk).imp_right fun ⟨hp, hping⟩ => ⟨hp, .inr (.inl hping)⟩
    · exact (absent hc hij).elim
  | released _ _ _ _ _ hc _ _ => exact (absent hc id).elim
  | @expiring i stage _ _ _ _ hc hi hst _ _ =>
    by_cases hij : j = i
    · subst hij
      obtain rfl := Option.some.inj (hj.symm.trans hi)
      rcases hst with hst | hst <;> cases hst
    · exact (absent hc hij).elim
  | ended _ _ _ hle ho hq hu hx =>
    have hping : PingedFrom (expiry t token) mid := by
      rcases ho j _ hj with hst | ⟨hp, -⟩
      · cases hst
      · exact hp
    exact ⟨fun k stage hk => (ho k stage hk).imp_right fun ⟨_, hopen⟩ => ⟨trivial, hopen⟩,
      .inr ⟨hle, hu, fun x hx => (hq x hx).1, hping, hx⟩⟩

end ClusterOperator.Provider.Traffic
