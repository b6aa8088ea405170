import ClusterOperator.Proofs.Program.Scene
import ClusterOperator.Proofs.Provider.Life

/-!
# Clients side by side

Clients are built and dropped on one cache at will, each question answered in one
step, and in between sessions log in and run out as they like. The counts of the
cache are the numbers of clients that hold its sessions, so no session is given up
that somebody holds.
-/

namespace ClusterOperator.Provider.Sharing

open Program Environment

variable {S : Type}

/-- What clients share. Sessions up to a bound were made so far. -/
structure Common where
  cache : Cache
  states : SessionId → LoginState
  bound : SessionId

def Common.isInactive (w : Common) (session : SessionId) : Bool := w.states session = .inactive

/-- Sources yield what they like, and a session that is made is another one than all before. -/
inductive Answers : Common → Exchange (Answer (S := S)) → Common → Prop
  | read {w : Common} {source : S} {r : Except CredentialError Credential} :
    Answers w ⟨.lookUp (.read source), r⟩ w
  | attach {w : Common} {label endpoint : String} {source : S} {fresh : SessionId}
    {hold : Cache.Hold} {cache : Cache} : w.bound ≤ fresh →
    w.cache.attach label fresh = (hold, cache) →
    Answers w ⟨.lookUp (.attach label endpoint source), hold⟩
      ⟨cache, w.states, if hold.known then w.bound else fresh + 1⟩
  | sourceOf {w : Common} {session : SessionId} {source : S} :
    Answers w ⟨.lookUp (.sourceOf session), source⟩ w
  | replaceSource {w : Common} {session : SessionId} {source : S} :
    Answers w ⟨.lookUp (.replaceSource session source), ()⟩ w
  | ping {w : Common} {session : SessionId} : Answers w ⟨.lookUp (.ping session), ()⟩ w
  | release {w : Common} {session : SessionId} : Answers w ⟨.release session, ()⟩
      { w with cache := w.cache.release session w.isInactive }

variable (S) in
def clients [DecidableEq S] : Environment (Answer (S := S)) (Except Error Client) Common where
  starts p := ∃ s : ClientSettings S, p = s.life
  answers := Answers
  drifts w w' := w'.cache = w.cache ∧ w.bound ≤ w'.bound

/-- Built, or past taking hold of a session in its build, and not dropped. -/
def holds (session : SessionId) (e : Errand (Answer (S := S)) (Except Error Client)) : Bool :=
  Cache.Share.isOf session (share e.told)

variable {w w' : Scene (Answer (S := S)) (Except Error Client) Common} {i : Nat}
  {x : Exchange (Answer (S := S))}

def shares (w : Scene (Answer (S := S)) (Except Error Client) Common) : List (Option Cache.Share) :=
  w.errands.map fun e => share e.told

theorem countP_shares (session : SessionId) :
    (shares w).countP (Cache.Share.isOf session) = w.errands.countP (holds session) := by
  unfold shares
  rw [List.countP_map]
  rfl

/-! ## Turns -/

/-- What an exchange does to the shares and to the cache. -/
inductive Turned (w : Scene (Answer (S := S)) (Except Error Client) Common) (i : Nat)
    (w' : Scene (Answer (S := S)) (Except Error Client) Common) : Exchange (Answer (S := S)) → Prop
  | quiet {x : Exchange (Answer (S := S))} : (∀ session, x.question ≠ .release session) →
    w'.state = w.state → shares w' = shares w → Turned w i w' x
  | attached {label endpoint : String} {source : S} {fresh : SessionId} {hold : Cache.Hold}
    {cache : Cache} : (shares w)[i]? = some none → w.state.bound ≤ fresh →
    w.state.cache.attach label fresh = (hold, cache) →
    w'.state = ⟨cache, w.state.states, if hold.known then w.state.bound else fresh + 1⟩ →
    shares w' = (shares w).set i (some ⟨label, hold.session⟩) →
    Turned w i w' ⟨.lookUp (.attach label endpoint source), hold⟩
  | released {label : String} {session : SessionId} :
    (shares w)[i]? = some (some ⟨label, session⟩) →
    w'.state = { w.state with cache := w.state.cache.release session w.state.isInactive } →
    shares w' = (shares w).set i none → Turned w i w' ⟨.release session, ()⟩

theorem Turned.ledger (h : Turned w i w' x) (hl : Cache.Ledger w.state.cache w.state.bound (shares w)) :
    Cache.Ledger w'.state.cache w'.state.bound (shares w') := by
  cases h with
  | quiet _ hs hw =>
    rw [hs, hw]
    exact hl
  | @attached label _ _ _ _ _ hi hb hc hs hw =>
    have ha := hl.attach hi label hb
    rw [hc] at ha
    rw [hs, hw]
    exact ha
  | released hi hs hw =>
    rw [hs, hw]
    exact hl.release hi

/-- A session that is given up was swept by a release. -/
theorem Turned.sweeps (h : Turned w i w' x) {entry : Cache.Entry} (he : entry ∈ w.state.cache.entries)
    (hgone : ∀ entry' ∈ w'.state.cache.entries, entry'.session ≠ entry.session) :
    ∃ session label, x = ⟨.release session, ()⟩ ∧ (shares w)[i]? = some (some ⟨label, session⟩) ∧
      shares w' = (shares w).set i none ∧
      Cache.isIdle w.state.isInactive (entry.leave session) := by
  cases h with
  | quiet _ hs _ =>
    rw [hs] at hgone
    exact absurd rfl (hgone entry he)
  | @attached label _ _ fresh _ _ _ _ hc hs _ =>
    obtain ⟨entry', he', hse⟩ := Cache.exists_mem_attach he (c := w.state.cache)
    rw [hc] at he'
    rw [hs] at hgone
    exact absurd hse (hgone entry' he')
  | @released label session hi hs hw =>
    refine ⟨session, label, rfl, hi, hw, ?_⟩
    by_contra hidle
    have hm := Cache.mem_release.mpr ⟨⟨entry, he, rfl⟩, Bool.eq_false_iff.mpr hidle⟩
    rw [hs] at hgone
    exact hgone _ hm Cache.Entry.leave_session

variable [DecidableEq S] {states : SessionId → LoginState} {bound : SessionId}

theorem turned_of_turn (hw : ∀ e ∈ w.errands, (clients S).Genuine e)
    (h : (clients S).Turn w i x w') : Turned w i w' x := by
  obtain ⟨e, hi, hq, ha, hw'⟩ := h
  obtain ⟨⟨s, hs⟩, -⟩ := hw e (List.mem_of_getElem? hi)
  rw [hs] at hq
  have hshare : (shares w)[i]? = some (share e.told) := by
    unfold shares
    rw [List.getElem?_map, hi]
    rfl
  have hshares : shares w' = (shares w).set i (share₁ (share e.told) x) := by
    unfold shares
    rw [hw', List.map_set, share_concat]
  have quiet (hx : share₁ (share e.told) x = share e.told) : shares w' = shares w := by
    obtain ⟨hlt, hget⟩ := List.getElem?_eq_some_iff.mp hshare
    rw [hshares, hx, ← hget, List.set_getElem_self]
  generalize hst : w'.state = st at ha
  cases ha with
  | read => exact .quiet nofun hst (quiet rfl)
  | attach hb hc =>
    obtain ⟨_, _, -, -, ht, -⟩ := attach_of_life hq
    have hn : share e.told = none := by rw [ht]; rfl
    rw [hn] at hshare
    exact .attached hshare hb hc hst hshares
  | sourceOf => exact .quiet nofun hst (quiet rfl)
  | replaceSource => exact .quiet nofun hst (quiet rfl)
  | ping => exact .quiet nofun hst (quiet rfl)
  | release =>
    obtain ⟨label, hl⟩ := share_of_release hq
    rw [hl] at hshare
    exact .released hshare hst hshares

theorem ledger_of_runs (h : (clients S).Runs (.start ⟨.empty, states, bound⟩) w) :
    Cache.Ledger w.state.cache w.state.bound (shares w) := by
  induction h with
  | refl => exact .empty
  | tail hw hs ih =>
    cases hs with
    | start _ =>
      unfold shares
      rw [List.map_append]
      exact ih.comes
    | turn ht => exact (turned_of_turn (Runs.genuine hw) ht).ledger ih
    | drift hd =>
      obtain ⟨hc, hb⟩ := hd
      rw [← hc] at ih
      exact ih.mono hb

/-- A session has no more holders than there are clients. -/
theorem holders_le (h : (clients S).Runs (.start ⟨.empty, states, bound⟩) w) {entry : Cache.Entry}
    (he : entry ∈ w.state.cache.entries) : entry.holders ≤ w.errands.length := by
  rw [(ledger_of_runs h).counted entry he, countP_shares]
  exact List.countP_le_length

/-- As long as there are fewer than `2 ^ 63` clients, the counts are those of a signed word. -/
theorem holders_fit (h : (clients S).Runs (.start ⟨.empty, states, bound⟩) w)
    (hl : w.errands.length < 2 ^ 63) {entry : Cache.Entry} (he : entry ∈ w.state.cache.entries) :
    (Int64.ofNat entry.holders).toInt = entry.holders := by
  have hle := holders_le h he
  exact Int64.toInt_ofNat_of_lt (by omega)

/-! ## What is given up -/

theorem evicted_of_step (h : (clients S).Runs (.start ⟨.empty, states, bound⟩) w)
    (hs : (clients S).Step w w') {entry : Cache.Entry} (he : entry ∈ w.state.cache.entries)
    (hgone : ∀ entry' ∈ w'.state.cache.entries, entry'.session ≠ entry.session) :
    ∃ i session, (clients S).Turn w i ⟨.release session, ()⟩ w' ∧
      w'.errands.countP (holds entry.session) = 0 ∧ w.state.states entry.session = .inactive := by
  cases hs with
  | start _ => exact absurd rfl (hgone entry he)
  | @turn _ i x ht =>
    obtain ⟨session, label, rfl, hi, hw, hidle⟩ :=
      (turned_of_turn (Runs.genuine h) ht).sweeps he hgone
    unfold Cache.isIdle Common.isInactive at hidle
    rw [Bool.and_eq_true, decide_eq_true_iff, decide_eq_true_iff] at hidle
    obtain ⟨hzero, hinactive⟩ := hidle
    rw [Cache.Entry.leave_session] at hinactive
    rw [(ledger_of_runs h).counted_leave hi he, ← hw, countP_shares] at hzero
    exact ⟨i, session, ht, hzero, hinactive⟩
  | drift hd =>
    rw [hd.1] at hgone
    exact absurd rfl (hgone entry he)

/-- A release takes one off the count of its session, and gives up what nobody holds then
and has run out. -/
theorem mem_of_release (h : (clients S).Runs (.start ⟨.empty, states, bound⟩) w) {session : SessionId}
    (ht : (clients S).Turn w i ⟨.release session, ()⟩ w') {entry : Cache.Entry} :
    entry ∈ w'.state.cache.entries ↔
      (∃ entry₀ ∈ w.state.cache.entries, entry = entry₀.leave session) ∧
        ¬ (w'.errands.countP (holds entry.session) = 0 ∧ w.state.states entry.session = .inactive) := by
  cases turned_of_turn (Runs.genuine h) ht with
  | quiet hn _ _ => exact absurd rfl (hn session)
  | released hi hs hw =>
    rw [hs, Cache.mem_release]
    refine and_congr_right fun ⟨entry₀, he₀, he⟩ => ?_
    have hcount : entry.holders = w'.errands.countP (holds entry.session) := by
      rw [he, Cache.Entry.leave_session, (ledger_of_runs h).counted_leave hi he₀, ← hw, countP_shares]
    unfold Cache.isIdle Common.isInactive
    rw [← hcount]
    simp

theorem unchanged_of_failed {u v : Scene (Answer (S := S)) (Except Error Client) Common}
    (ht : (clients S).Turn u i x v) (hv : (clients S).Runs v w) {s : ClientSettings S}
    {told : List (Exchange (Answer (S := S)))} {e : Error}
    (hi : w.errands[i]? = some ⟨s.life, told⟩) (he : Ends s.life told (.error e)) :
    v.state = u.state := by
  obtain ⟨e₀, hi₀, -, ha, hw⟩ := ht
  have hlt := (List.getElem?_eq_some_iff.mp hi₀).1
  have hi₁ : v.errands[i]? = some ⟨e₀.program, e₀.told ++ [x]⟩ := by
    rw [hw, List.getElem?_set_self hlt]
  obtain ⟨more, hm⟩ := hv.goes_on hi₁
  rw [hi] at hm
  obtain ⟨-, htold⟩ := Errand.mk.inj (Option.some.inj hm)
  have hx : x ∈ told := by
    rw [htold]
    exact List.mem_append_left _ (List.mem_append_right _ List.mem_cons_self)
  obtain ⟨source, hq⟩ := reads_of_failed he hx
  obtain ⟨q, a⟩ := x
  obtain rfl : q = .lookUp (.read source) := hq
  generalize v.state = state at ha ⊢
  cases ha with
  | read => rfl

/-- The count of every session in the cache is the number of clients that hold it. So a
session that a client holds is in the cache, and clients whose endpoint and credential have
one label hold one session. A session leaves the cache only by a release, when nobody holds
it and it has run out; a release gives up all of these, and counts off none but the one
that is let go of. A build that fails leaves all as it was. -/
theorem clients_share (h : (clients S).Runs (.start ⟨.empty, states, bound⟩) w) :
    (∀ entry ∈ w.state.cache.entries, entry.holders = w.errands.countP (holds entry.session)) ∧
    (∀ e ∈ w.errands, ∀ held, share e.told = some held → w.state.cache.contains held.session) ∧
    (∀ e ∈ w.errands, ∀ e' ∈ w.errands, ∀ held held', share e.told = some held →
      share e'.told = some held' → held.label = held'.label → held.session = held'.session) ∧
    (∀ (s : ClientSettings S) (told : List (Exchange (Answer (S := S)))),
      ⟨s.life, told⟩ ∈ w.errands →
      (∀ held, share told = some held → ∃ api auth source credential,
        s.addresses = .ok (api, auth) ∧ s.source = some source ∧
        ⟨.lookUp (.read source), .ok credential⟩ ∈ told ∧ held.label = sessionLabel auth credential) ∧
      ∀ heard c, told = heard.map lift → Ends s.build heard (.ok c) →
        ∃ label, share told = some ⟨label, c.session⟩) ∧
    (∀ w', (clients S).Step w w' → ∀ entry ∈ w.state.cache.entries,
      (∀ entry' ∈ w'.state.cache.entries, entry'.session ≠ entry.session) →
      ∃ i session, (clients S).Turn w i ⟨.release session, ()⟩ w' ∧
        w'.errands.countP (holds entry.session) = 0 ∧ w.state.states entry.session = .inactive) ∧
    (∀ i session w', (clients S).Turn w i ⟨.release session, ()⟩ w' → ∀ entry,
      entry ∈ w'.state.cache.entries ↔
        (∃ entry₀ ∈ w.state.cache.entries, entry = entry₀.leave session) ∧
        ¬ (w'.errands.countP (holds entry.session) = 0 ∧ w.state.states entry.session = .inactive)) ∧
    ∀ u i x v, (clients S).Turn u i x v → (clients S).Runs v w → ∀ (s : ClientSettings S) told e,
      w.errands[i]? = some ⟨s.life, told⟩ → Ends s.life told (.error e) → v.state = u.state := by
  have hl := ledger_of_runs h
  have mem : ∀ {e : Errand (Answer (S := S)) (Except Error Client)} {held : Cache.Share},
      e ∈ w.errands → share e.told = some held → some held ∈ shares w :=
    fun he hs => List.mem_map.mpr ⟨_, he, hs⟩
  refine ⟨?_, ?_, ?_, ?_, ?_, ?_, ?_⟩
  · intro entry he
    rw [hl.counted entry he, countP_shares]
  · intro e he held hs
    exact hl.contains (mem he hs)
  · intro e he e' he' held held' hs hs' hlabel
    exact hl.same_session (mem he hs) (mem he' hs') hlabel
  · intro s told he
    constructor
    · intro held hs
      exact label_of_life (Runs.genuine h _ he).hears hs
    · rintro heard c rfl hb
      exact share_of_built hb
  · intro w' hs entry he hgone
    exact evicted_of_step h hs he hgone
  · intro i session w' ht entry
    exact mem_of_release h ht
  · intro u i x v ht hv s told e hi he
    exact unchanged_of_failed ht hv hi he

namespace Sample

def url : String := "https://api.example.com"

def settings : ClientSettings Unit := ⟨some url, none, some (), none⟩

def key : Credential := ⟨"key", "secret"⟩

def label : String := sessionLabel url key

theorem address_ok : readAddress url = .ok url := by
  have hp : (Url.parse url).toOption.isSome := by decide +kernel
  have ht : Text.trim url = url := by decide
  have hd : Text.dropEnd '/' url = url := by decide
  unfold readAddress
  simp only [ht, hd]
  cases hu : Url.parse url with
  | ok u => rfl
  | error e =>
    rw [hu] at hp
    cases hp

theorem build_at (source : S) :
    (⟨some url, none, some source, none⟩ : ClientSettings S).build =
      (Cache.lookUp url source).bind fun r => .done <|
        match r with
        | .error e => .error (.credentialUnread e)
        | .ok session => .ok ⟨url, url, agent (Text.trim version), session⟩ := by
  have ha : readAddress ((some url).getD "") = .ok url := address_ok
  have hs : (⟨some url, none, some source, none⟩ : ClientSettings S).addresses = .ok (url, url) := by
    unfold ClientSettings.addresses
    rw [ha]
    rfl
  unfold ClientSettings.build
  generalize ClientSettings.addresses _ = a at hs ⊢
  subst hs
  rfl

theorem build_eq : settings.build = (Cache.lookUp url ()).bind fun r => .done <|
    match r with
    | .error e => .error (.credentialUnread e)
    | .ok session => .ok ⟨url, url, agent (Text.trim (settings.version.getD version)), session⟩ :=
  build_at ()

/-- What a client hears that takes hold of this. -/
def took (hold : Cache.Hold) : List (Exchange (Answer (S := Unit))) :=
  [⟨.lookUp (.read ()), .ok key⟩, ⟨.lookUp (.attach label url ()), hold⟩]

theorem asks_read : Asks settings.life [] (.lookUp (.read ())) := by
  unfold ClientSettings.life
  rw [build_eq, Cache.lookUp_eq]
  exact .now

theorem asks_attach : Asks settings.life [⟨.lookUp (.read ()), .ok key⟩]
    (.lookUp (.attach label url ())) := by
  unfold ClientSettings.life
  rw [build_eq, Cache.lookUp_eq]
  exact .later .now

theorem asks_release : Asks settings.life (took ⟨0, false⟩) (.release 0) := by
  unfold ClientSettings.life
  rw [build_eq, Cache.lookUp_eq]
  exact .later (.later .now)

/-- Two clients are built at once, and the second takes hold of the first one's session. -/
def both : Scene (Answer (S := Unit)) (Except Error Client) Common :=
  ⟨⟨⟨[⟨label, 0, 2⟩]⟩, fun _ => .inactive, 1⟩,
    [⟨settings.life, took ⟨0, false⟩⟩, ⟨settings.life, took ⟨0, true⟩⟩]⟩

theorem both_runs : (clients Unit).Runs (.start ⟨.empty, fun _ => .inactive, 0⟩) both := by
  have hs : (clients Unit).starts settings.life := ⟨settings, rfl⟩
  have h₁ : (clients Unit).Runs (.start ⟨.empty, fun _ => .inactive, 0⟩)
      ⟨⟨.empty, fun _ => .inactive, 0⟩, [⟨settings.life, []⟩, ⟨settings.life, []⟩]⟩ :=
    Runs.starts (Runs.starts .refl hs) hs
  have h₂ := (h₁.turns 0 ⟨.lookUp (.read ()), .ok key⟩ _ rfl asks_read .read).turns 1
    ⟨.lookUp (.read ()), .ok key⟩ _ rfl asks_read .read
  have h₃ := h₂.turns 0 ⟨.lookUp (.attach label url ()), ⟨0, false⟩⟩ _ rfl asks_attach
    (.attach (Nat.le_refl _) rfl)
  have hknown : (⟨[⟨label, 0, 1⟩]⟩ : Cache).attach label 1 = (⟨0, true⟩, ⟨[⟨label, 0, 2⟩]⟩) := by
    have hf : (⟨[⟨label, 0, 1⟩]⟩ : Cache).find? label = some ⟨label, 0, 1⟩ := by simp [Cache.find?]
    rw [Cache.attach_known hf]
    simp [Cache.Entry.join]
  exact h₃.turns 1 ⟨.lookUp (.attach label url ()), ⟨0, true⟩⟩ _ rfl asks_attach
    (.attach (Nat.le_refl _) hknown)

/-- The first one is dropped. -/
def dropped : Scene (Answer (S := Unit)) (Except Error Client) Common :=
  ⟨{ both.state with cache := both.state.cache.release 0 both.state.isInactive },
    both.errands.set 0 ⟨settings.life, took ⟨0, false⟩ ++ [⟨.release 0, ()⟩]⟩⟩

theorem dropped_turn : (clients Unit).Turn both 0 ⟨.release 0, ()⟩ dropped :=
  ⟨_, rfl, asks_release, .release, rfl⟩

end Sample

/-- Of two clients that were built at once one is dropped, and the session stays for the other
although it has run out. -/
theorem clients_share_two : ∃ w w' : Scene (Answer (S := Unit)) (Except Error Client) Common,
    (clients Unit).Runs (.start ⟨.empty, fun _ => .inactive, 0⟩) w ∧
      w.errands.countP (holds 0) = 2 ∧ (clients Unit).Turn w 0 ⟨.release 0, ()⟩ w' ∧
      w'.state.states 0 = .inactive ∧ ⟨Sample.label, 0, 1⟩ ∈ w'.state.cache.entries := by
  obtain ⟨hcount, -, -, -, -, hrelease, -⟩ := clients_share Sample.both_runs
  have htwo := hcount ⟨Sample.label, 0, 2⟩ List.mem_cons_self
  have hm := (hrelease 0 0 _ Sample.dropped_turn ⟨Sample.label, 0, 1⟩).mpr
    ⟨⟨⟨Sample.label, 0, 2⟩, List.mem_cons_self, rfl⟩, nofun⟩
  exact ⟨_, _, Sample.both_runs, htwo.symm, Sample.dropped_turn, rfl, hm⟩

end ClusterOperator.Provider.Sharing
