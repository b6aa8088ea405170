import ClusterOperator.Proofs.Provider.Labels
import ClusterOperator.Proofs.Provider.Tenants

/-!
# Whose token a request bears

The token of a request was issued for what the source of some client of the same session
yielded, and all of these came to the session by one label. That need not be the client's
own source, if a source changes its mind.
-/

namespace ClusterOperator.Provider.Tenancy

open Program Environment

variable {S : Type} [DecidableEq S] {settings : SessionSettings} {w w' : Tenants S} {i : Nat}
  {c : Client} {r : Client.Request} {reply : Except Error Http.Response} {t : Traffic S}

/-- A client of a session, with its source and with what that yielded when it was built. -/
structure IsTenant (w : Tenants S) (e : Errand (Answer (S := S)) (Except Error Client))
    (id : SessionId) (endpoint : String) (source : S) (credential : Credential) : Prop where
  built : ∃ (s : ClientSettings S) (work : Client → Program Client.Answer Unit),
    e.program = s.tenure work ∧ s.source = some source
  holds : Holds id endpoint source credential e.told
  yielded : .yielded source credential ∈ w.state.log

theorem isTenant_of_holds (h : (tenants S settings).Runs (vacant t) w)
    {e : Errand (Answer (S := S)) (Except Error Client)} (he : e ∈ w.errands) {id : SessionId}
    {endpoint : String} {source : S} {credential : Credential}
    (hh : Holds id endpoint source credential e.told) :
    IsTenant w e id endpoint source credential := by
  obtain ⟨⟨s, work, hp⟩, hg⟩ := Runs.genuine h e he
  have hs := hh
  rw [hp] at hg
  obtain ⟨-, hsource⟩ := settings_of_holds hg hh
  obtain ⟨known, rest, ht⟩ := hs
  refine ⟨⟨s, work, hp, hsource⟩, hh, (orderly_of_runs h).read e he _ _ ?_⟩
  rw [← ht]
  exact List.mem_append_left _ List.mem_cons_self

theorem turn_of_send (h : (tenants S settings).Runs (vacant t) w)
    (ht : (tenants S settings).Turn w i ⟨.call c (.send r), reply⟩ w') : ∃ e source own,
    w.errands[i]? = some e ∧ IsTenant w e c.session c.authUrl source own ∧
      w'.state.log = .sent (c.onWire (w.state.sessions c.session).session.token r) :: w.state.log := by
  obtain ⟨e, hi, hq, ha, -⟩ := ht
  have he := List.mem_of_getElem? hi
  obtain ⟨⟨s, work, hp⟩, -⟩ := Runs.genuine h e he
  rw [hp] at hq
  obtain ⟨source, own, -, hh⟩ := call_of_tenure hq
  refine ⟨e, source, own, hi, isTenant_of_holds h he hh, ?_⟩
  generalize w'.state = st at ha ⊢
  cases ha with
  | send _ _ => rfl

/-- The request of a client bears no token if its session is not active. Otherwise it bears
one that was issued, at this session, for a credential that a client of the session has from
its source: this client or another, which came to the session with a credential of the same
endpoint and label. So it is one of the client's own source if no source changes what it
yields and labels tell what was yielded apart. -/
theorem token_of_tenant (h : (tenants S settings).Runs (vacant t) w)
    (ht : (tenants S settings).Turn w i ⟨.call c (.send r), reply⟩ w') :
    ∃ e source own token, w.errands[i]? = some e ∧ IsTenant w e c.session c.authUrl source own ∧
      w'.state.log = .sent (c.onWire token r) :: w.state.log ∧
      ((w.state.sessions c.session).session.state ≠ .active → token = "") ∧
      ((w.state.sessions c.session).session.state = .active →
        ∃ issued credential, token = issued.accessToken ∧
          .issued c.session credential issued ∈ w.state.log ∧
          ∃ e' ∈ w.errands, ∃ source' own', IsTenant w e' c.session c.authUrl source' own' ∧
            sessionLabel c.authUrl own' = sessionLabel c.authUrl own ∧
            .yielded source' credential ∈ w.state.log ∧
            ((∀ source a b, .yielded source a ∈ w.state.log → .yielded source b ∈ w.state.log → a = b) →
              (∀ source source' a b, .yielded source a ∈ w.state.log →
                .yielded source' b ∈ w.state.log →
                sessionLabel c.authUrl a = sessionLabel c.authUrl b → a = b) →
              .yielded source credential ∈ w.state.log)) := by
  obtain ⟨e, source, own, hi, hown, hlog⟩ := turn_of_send h ht
  have ho := orderly_of_runs h
  have he := List.mem_of_getElem? hi
  have hs := ho.sourced c.session (ho.held e he _ _ _ _ hown.holds).1
  refine ⟨e, source, own, _, hi, hown, hlog, hs.blank, fun hact => ?_⟩
  obtain ⟨credential, issued, source', htoken, hissued, hheld, hy⟩ := hs.token hact
  obtain ⟨e', he', endpoint', own', hh'⟩ := hheld
  have hlabel := ho.alike e' he' e he _ _ _ _ _ _ _ hh' hown.holds
  obtain ⟨rfl, -⟩ := sessionLabel_split hlabel
  have hother := isTenant_of_holds h he' hh'
  refine ⟨issued, credential, htoken, hissued, e', he', source', own', hother, hlabel, hy, ?_⟩
  intro hstill hlabels
  rw [hstill source' credential own' hy hother.yielded,
    hlabels _ _ own' own hother.yielded hown.yielded hlabel]
  exact hown.yielded

/-! ## A source that changes its mind -/

namespace Sample

open Sharing.Sample (url key label build_at)

def lister (source : Bool) : Program (Answer (S := Bool)) (Except Error Client) :=
  (⟨some url, none, some source, none⟩ : ClientSettings Bool).tenure fun _ =>
    Client.teams.run.bind fun _ => .done ()

def client : Client := ⟨url, url, agent (Text.trim version), 0⟩

def first : List (Exchange (Answer (S := Bool))) := tookHold 0 false url true key

/-- The second finds that the session's source yields what its own does. -/
def second : List (Exchange (Answer (S := Bool))) :=
  tookHold 0 true url false key ++
    [⟨.lookUp (.sourceOf 0), true⟩, ⟨.lookUp (.read true), .ok key⟩]

theorem first_hears : (lister true).Hears first := by
  unfold lister ClientSettings.tenure
  rw [build_at, Cache.lookUp_eq]
  exact .later (.later .start)

theorem second_built : Ends (⟨some url, none, some false, none⟩ : ClientSettings Bool).build
    [⟨.read false, .ok key⟩, ⟨.attach label url false, ⟨0, true⟩⟩, ⟨.sourceOf 0, true⟩,
      ⟨.read true, .ok key⟩] (.ok client) := by
  have hr : Ends (Cache.repair 0 false key) [⟨.sourceOf 0, true⟩, ⟨.read true, .ok key⟩] () :=
    .later (.later .now)
  have hs : Ends (Cache.settle false key ⟨0, true⟩)
      [⟨.sourceOf 0, true⟩, ⟨.read true, .ok key⟩] (.ok 0) := hr.ends_bind .now
  have hl : Ends (Cache.lookUp url false) [⟨.read false, .ok key⟩,
      ⟨.attach label url false, ⟨0, true⟩⟩, ⟨.sourceOf 0, true⟩, ⟨.read true, .ok key⟩] (.ok 0) := by
    rw [Cache.lookUp_eq]
    exact .later (.later hs)
  rw [build_at]
  exact hl.ends_bind .now

theorem second_asks_check : Asks (lister false) second (.call client .check) :=
  asks_call_of_built [] second_built .now

theorem second_asks_send : Asks (lister false) (second ++ [⟨.call client .check, .active⟩])
    (.call client (.send (.get "/teams"))) :=
  asks_call_of_built [⟨.check, .active⟩] second_built (.later .now)

/-- What the source of the first client yields later on. -/
def other : Credential := ⟨"other", "secret"⟩

def token : IssuedToken := ⟨"token", "t1", 600⟩

def begun : Traffic Bool := .start (.opened .start 0 url true)

def active : Traffic Bool := ⟨begun.session.succeed .start 0 token, [.finished]⟩

def both : List (Errand (Answer (S := Bool)) (Except Error Client)) :=
  [⟨lister true, first⟩, ⟨lister false, second⟩]

/-- The second client joins the session of the first, while both sources yield the same. -/
def joined : Common Bool where
  cache := ⟨[⟨label, 0, 2⟩]⟩
  sessions id := if id = 0 then begun else begun
  bound := 1
  log := [.yielded true key, .yielded false key, .yielded true key]

theorem joined_runs : (tenants Bool .start).Runs (vacant begun) ⟨joined, both⟩ := by
  have hs (source : Bool) : (tenants Bool .start).starts (lister source) := ⟨_, _, rfl⟩
  have hjoin : (⟨[⟨label, 0, 1⟩]⟩ : Cache).attach label 1 = (⟨0, true⟩, ⟨[⟨label, 0, 2⟩]⟩) := by
    have hf : (⟨[⟨label, 0, 1⟩]⟩ : Cache).find? label = some ⟨label, 0, 1⟩ := by simp [Cache.find?]
    rw [Cache.attach_known hf]
    simp [Cache.Entry.join]
  have h₀ : (tenants Bool .start).Runs (vacant begun) (vacant begun) := .refl
  have h₁ := h₀.performs (hs true) first_hears (.cons .read (.last (.opens 0 rfl rfl)))
  exact h₁.performs (hs false) second_asks_check.heard (.cons .read
    (.cons (.join hjoin rfl) (.cons .sourceOf (.last .read))))

theorem active_runs : ∃ state : Common Bool, (tenants Bool .start).Runs (vacant begun) ⟨state, both⟩ ∧
    state.sessions 0 = active ∧
    state.log = .issued 0 other token :: .yielded true other :: joined.log := by
  have drift {state : Common Bool} (h : (tenants Bool .start).Runs (vacant begun) ⟨state, both⟩)
      (e : Traffic.Event Bool) {t : Traffic Bool} (hb : 0 < state.bound)
      (hr : ∀ source, e ≠ .replaced source) (hs : Traffic.Step .start (state.sessions 0) e t) :
      (tenants Bool .start).Runs (vacant begun)
        ⟨(state.put 0 t).record ((state.sessions 0).facts 0 e), both⟩ :=
    h.drifts (.session hb hr hs)
  have h₁ := drift joined_runs (.called .ping) (by decide) nofun .called
  have h₂ := drift h₁ (.moved 0 .none 0 0) (by decide) nofun (.moved rfl rfl)
  have h₃ := drift h₂ (.moved 0 .none 0 0) (by decide) nofun (.moved rfl rfl)
  have h₄ := drift h₃ (.moved 0 .none 0 0) (by decide) nofun (.moved rfl rfl)
  have h₅ := drift h₄ (.moved 0 .none 0 0) (by decide) nofun (.moved rfl rfl)
  have h₆ := drift h₅ (.moved 0 (.credential (.ok other)) 0 0) (by decide) nofun (.moved rfl rfl)
  have h₇ := drift h₆ (.moved 0 (.token (.issued token)) 0 0) (by decide) nofun (.moved rfl rfl)
  exact ⟨_, h₇, rfl, rfl⟩

/-- So what the second client sends bears the token of the first one's new credential. -/
theorem send_turn : ∃ w w' : Tenants Bool, (tenants Bool .start).Runs (vacant begun) w ∧
    (tenants Bool .start).Turn w 1 ⟨.call client (.send (.get "/teams")), .error .notFound⟩ w' ∧
    w.errands[1]? = some ⟨lister false, second ++ [⟨.call client .check, .active⟩]⟩ ∧
    (w.state.sessions 0).session.state = .active ∧
    w.state.log = .issued 0 other token :: .yielded true other :: joined.log ∧
    w'.state.log = .sent (client.onWire "token" (.get "/teams")) :: w.state.log := by
  obtain ⟨state, h, hs, hl⟩ := active_runs
  have hact : (state.sessions client.session).session.state = .active := by
    unfold client
    rw [hs]
    rfl
  have htoken : (state.sessions client.session).session.token = "token" := by
    unfold client
    rw [hs]
    rfl
  have hcheck : Answers .start state ⟨.call client .check, .active⟩ state := by
    rw [← hact]
    exact .check
  have h₁ := h.turns 1 ⟨.call client .check, .active⟩ state rfl second_asks_check hcheck
  refine ⟨_, ⟨_, _⟩, h₁, ⟨_, rfl, second_asks_send, .send 0 .used, rfl⟩, rfl, hact, hl, ?_⟩
  rw [← htoken]
  rfl

end Sample

/-- The second client's request bears a token for what a client of its session has yielded. -/
theorem token_of_tenant_second : ∃ w w' token issued credential e source own,
    (tenants Bool .start).Runs (vacant Sample.begun) w ∧
      (tenants Bool .start).Turn w 1
        ⟨.call Sample.client (.send (.get "/teams")), .error .notFound⟩ w' ∧
      w'.state.log = .sent (Sample.client.onWire token (.get "/teams")) :: w.state.log ∧
      token = issued.accessToken ∧ .issued 0 credential issued ∈ w.state.log ∧ e ∈ w.errands ∧
      IsTenant w e 0 Sharing.Sample.url source own ∧ .yielded source credential ∈ w.state.log := by
  obtain ⟨w, w', hw, ht, -, hact, -, -⟩ := Sample.send_turn
  obtain ⟨_, _, _, token, -, -, hsent, -, hissued⟩ := token_of_tenant hw ht
  obtain ⟨issued, credential, htoken, hi, e, he, source, own, hown, -, hy, -⟩ := hissued hact
  exact ⟨w, w', token, issued, credential, e, source, own, hw, ht, hsent, htoken, hi, he, hown, hy⟩

/-- A client need not have been served the token of a credential of its own source. -/
theorem token_of_other_source : ¬ ∀ (w w' : Tenants Bool) (i : Nat) (c : Client) (r : Client.Request)
    (reply : Except Error Http.Response) (s : ClientSettings Bool)
    (work : Client → Program Client.Answer Unit) (told : List (Exchange (Answer (S := Bool))))
    (source : Bool) (token : String), (tenants Bool .start).Runs (vacant Sample.begun) w →
    (tenants Bool .start).Turn w i ⟨.call c (.send r), reply⟩ w' →
    w.errands[i]? = some ⟨s.tenure work, told⟩ → s.source = some source →
    w'.state.log = .sent (c.onWire token r) :: w.state.log →
    ∃ credential issued, token = issued.accessToken ∧
      .issued c.session credential issued ∈ w.state.log ∧
      .yielded source credential ∈ w.state.log := by
  intro h
  obtain ⟨w, w', hw, ht, he, -, hl, hsent⟩ := Sample.send_turn
  obtain ⟨credential, issued, -, hi, hy⟩ := h w w' 1 _ _ _ _ _ _ false "token" hw ht he rfl hsent
  rw [hl] at hi hy
  have hc : credential = Sample.other := by
    simp [Sample.joined] at hi
    exact hi.2.1
  simp [Sample.joined, hc, Sample.other, Sharing.Sample.key] at hy

end ClusterOperator.Provider.Tenancy
