import Mathlib.Data.List.Induction
import ClusterOperator.Proofs.Program.Transcript
import ClusterOperator.Proofs.Provider.Ledger
import ClusterOperator.Provider.Client

/-!
# The life of a client

What a client asks of the cache, from its build to its drop. A lookup reads the
source and takes hold of a session; what it asks after that leaves the counts
alone. So the transcript of a client tells what it holds.
-/

namespace ClusterOperator.Provider

open Program

variable {S : Type}

/-! ## Looking up -/

namespace Cache

/-- Takes hold of no session. -/
def Question.isQuiet : Question S → Bool
  | .attach _ _ _ => false
  | _ => true

variable [DecidableEq S] {endpoint : String} {source : S} {told : List (Exchange (Answer (S := S)))}
  {q : Question S}

theorem only_repair {session : SessionId} {credential : Credential} :
    Only (·.isQuiet) (repair session source credential) := by
  refine only_ask rfl fun current => ?_
  show Only _ (ite _ _ _)
  split
  · exact only_done
  · refine only_ask rfl fun existing => ?_
    show Only _ (ite _ _ _)
    split
    · exact only_done
    · exact only_ask rfl fun _ => only_ask rfl fun _ => only_done

/-- Past taking hold of a session, with the source's credential and what was answered. -/
def Took (endpoint : String) (source : S) (credential : Credential) (hold : Hold)
    (told : List (Exchange (Answer (S := S)))) : Prop :=
  ∃ rest, told = ⟨.read source, .ok credential⟩ ::
      ⟨.attach (sessionLabel endpoint credential) endpoint source, hold⟩ :: rest ∧
    ∀ x ∈ rest, x.question.isQuiet

/-- What is left of a lookup that took hold of a session. -/
def settle (source : S) (credential : Credential) (hold : Hold) :
    Program (Answer (S := S)) (Except CredentialError SessionId) :=
  (if hold.known then repair hold.session source credential else .done ()).bind fun _ =>
    .done (.ok hold.session)

theorem lookUp_eq : lookUp endpoint source = .ask (.read source) fun
    | .error e => .done (.error e)
    | .ok c => .ask (.attach (sessionLabel endpoint c) endpoint source) (settle source c) := by
  unfold lookUp settle
  refine congrArg (Program.ask _) (funext fun r => ?_)
  cases r with
  | error e => rfl
  | ok c =>
    refine congrArg (Program.ask _) (funext fun hold => ?_)
    obtain ⟨session, known⟩ := hold
    cases known <;> rfl

theorem only_settle {credential : Credential} {hold : Hold} :
    Only (·.isQuiet) (settle source credential hold) := by
  intro told q h
  unfold settle at h
  rcases asks_bind.mp h with h | ⟨_, _, _, _, h, _⟩
  · split at h
    · exact only_repair _ _ h
    · cases h
  · cases h

theorem ends_settle {credential : Credential} {hold : Hold} {r : Except CredentialError SessionId}
    (h : Ends (settle source credential hold) told r) : r = .ok hold.session := by
  unfold settle at h
  obtain ⟨_, _, _, -, h, -⟩ := ends_bind.mp h
  exact (ends_done.mp h).2

theorem asks_lookUp (h : Asks (lookUp endpoint source) told q) :
    (told = [] ∧ q = .read source) ∨
    (∃ c, told = [⟨.read source, .ok c⟩] ∧
      q = .attach (sessionLabel endpoint c) endpoint source) ∨
    ((∃ c hold, Took endpoint source c hold told) ∧ q.isQuiet) := by
  rw [lookUp_eq] at h
  cases h with
  | now => exact .inl ⟨rfl, rfl⟩
  | @later _ _ _ r told h =>
    cases r with
    | error e => cases h
    | ok c =>
      cases h with
      | now => exact .inr (.inl ⟨c, rfl, rfl⟩)
      | @later _ _ _ hold told h =>
        exact .inr (.inr ⟨⟨c, hold, told, rfl, fun x hx => only_settle.hears h.heard hx⟩,
          only_settle _ _ h⟩)

theorem ends_lookUp {r : Except CredentialError SessionId} (h : Ends (lookUp endpoint source) told r) :
    (∃ e, told = [⟨.read source, .error e⟩] ∧ r = .error e) ∨
      ∃ c hold, Took endpoint source c hold told ∧ r = .ok hold.session := by
  rw [lookUp_eq] at h
  cases h with
  | @later _ _ r told _ h =>
    cases r with
    | error e =>
      obtain ⟨rfl, rfl⟩ := ends_done.mp h
      exact .inl ⟨e, rfl, rfl⟩
    | ok c =>
      cases h with
      | @later _ _ hold told _ h =>
        exact .inr ⟨c, hold, ⟨told, rfl, fun x hx => only_settle.hears h.hears hx⟩, ends_settle h⟩

end Cache

/-! ## The life of a client -/

namespace ClientSettings

variable [DecidableEq S] {s : ClientSettings S} {told : List (Exchange (Cache.Answer (S := S)))}

theorem asks_build {q : Cache.Question S} (h : Asks s.build told q) : ∃ api auth source,
    s.addresses = .ok (api, auth) ∧ s.source = some source ∧ Asks (Cache.lookUp auth source) told q := by
  unfold build at h
  split at h
  · cases h
  · cases h
  · next api auth source ha hs =>
    rcases asks_bind.mp h with h | ⟨_, _, _, -, h, -⟩
    · exact ⟨api, auth, source, ha, hs, h⟩
    · cases h

/-- A session is taken hold of once, after the source yielded a credential. -/
theorem attach_of_build {label endpoint : String} {source : S}
    (h : Asks s.build told (.attach label endpoint source)) : ∃ api credential,
    s.addresses = .ok (api, endpoint) ∧ s.source = some source ∧
      told = [⟨.read source, .ok credential⟩] ∧ label = sessionLabel endpoint credential := by
  obtain ⟨api, auth, source', ha, hs, hl⟩ := asks_build h
  rcases Cache.asks_lookUp hl with ⟨-, hq⟩ | ⟨credential, rfl, hq⟩ | ⟨-, hq⟩
  · cases hq
  · cases hq
    exact ⟨api, credential, ha, hs, rfl, rfl⟩
  · cases hq

theorem ends_build_ok {c : Client} (h : Ends s.build told (.ok c)) : ∃ api source,
    s.addresses = .ok (api, c.authUrl) ∧ s.source = some source ∧
      Ends (Cache.lookUp c.authUrl source) told (.ok c.session) := by
  unfold build at h
  split at h
  · cases h
  · cases h
  · next api auth source ha hs =>
    obtain ⟨r, t, u, hl, hd, rfl⟩ := ends_bind.mp h
    obtain ⟨rfl, hc⟩ := ends_done.mp hd
    cases r with
    | error e => cases hc
    | ok session =>
      obtain rfl := Except.ok.inj hc
      rw [List.append_nil]
      exact ⟨api, source, ha, hs, hl⟩

theorem ends_build_error {e : Error} (h : Ends s.build told (.error e)) :
    ∀ x ∈ told, ∃ source, x.question = .read source := by
  unfold build at h
  split at h
  · obtain ⟨rfl, -⟩ := ends_done.mp h
    nofun
  · obtain ⟨rfl, -⟩ := ends_done.mp h
    nofun
  · next api auth source ha hs =>
    obtain ⟨r, t, u, hl, hd, rfl⟩ := ends_bind.mp h
    obtain ⟨rfl, hc⟩ := ends_done.mp hd
    rcases Cache.ends_lookUp hl with ⟨e, rfl, rfl⟩ | ⟨_, _, _, rfl⟩
    · intro x hx
      simp at hx
      exact ⟨source, by rw [hx]⟩
    · cases hc

end ClientSettings

namespace Sharing

/-- What clients ask of a cache, from their builds to their drops. -/
inductive Question (S : Type) where
  | lookUp (q : Cache.Question S)
  | release (session : SessionId)

@[reducible] def Answer : Question S → Type
  | .lookUp q => Cache.Answer q
  | .release _ => Unit

end Sharing

open Sharing

/-- A client is built, and dropped some time later. -/
def ClientSettings.life [DecidableEq S] (s : ClientSettings S) :
    Program (Answer (S := S)) (Except Error Client) :=
  (s.build.interpret fun q => .query (.lookUp q)).bind fun
    | .error e => .done (.error e)
    | .ok c => .ask (.release c.session) fun _ => .done (.ok c)

namespace Sharing

/-- As a part of a client's life. -/
def lift (x : Exchange (Cache.Answer (S := S))) : Exchange (Answer (S := S)) :=
  ⟨.lookUp x.question, x.answer⟩

theorem eq_of_spells {heard : List (Exchange (Cache.Answer (S := S)))}
    {told : List (Exchange (Answer (S := S)))}
    (h : Spells (fun q => .query (.lookUp q)) heard told) : told = heard.map lift :=
  spells_query.mp h

/-- What a client holds after an exchange. -/
def share₁ (held : Option Cache.Share) : Exchange (Answer (S := S)) → Option Cache.Share
  | ⟨.lookUp (.attach label _ _), hold⟩ => some ⟨label, hold.session⟩
  | ⟨.release _, _⟩ => none
  | _ => held

/-- What a client holds that was told all this. -/
def share (told : List (Exchange (Answer (S := S)))) : Option Cache.Share := told.foldl share₁ none

variable {told : List (Exchange (Answer (S := S)))} {x : Exchange (Answer (S := S))}

theorem share_concat : share (told ++ [x]) = share₁ (share told) x := by
  unfold share
  rw [List.foldl_append]
  rfl

/-- What a client holds it took hold of. -/
theorem attach_of_share {held : Cache.Share} (h : share told = some held) :
    ∃ x ∈ told, ∃ (endpoint : String) (source : S),
      x.question = .lookUp (.attach held.label endpoint source) := by
  induction told using List.reverseRecOn with
  | nil => cases h
  | append_singleton told x ih =>
    rw [share_concat] at h
    by_cases hs : share told = some held
    · obtain ⟨y, hy, hq⟩ := ih hs
      exact ⟨y, List.mem_append_left _ hy, hq⟩
    · refine ⟨x, List.mem_append_right _ List.mem_cons_self, ?_⟩
      obtain ⟨q, a⟩ := x
      cases q with
      | lookUp q =>
        cases q with
        | attach label endpoint source =>
          obtain rfl := Option.some.inj h
          exact ⟨endpoint, source, rfl⟩
        | _ => exact absurd h hs
      | release session => cases h

theorem foldl_share_of_isQuiet {heard : List (Exchange (Cache.Answer (S := S)))}
    (h : ∀ x ∈ heard, x.question.isQuiet) (held : Option Cache.Share) :
    (heard.map lift).foldl share₁ held = held := by
  induction heard with
  | nil => rfl
  | cons x heard ih =>
    have hx := h x List.mem_cons_self
    have hs : share₁ held (lift x) = held := by
      obtain ⟨q, a⟩ := x
      cases q with
      | attach => cases hx
      | _ => rfl
    rw [List.map_cons, List.foldl_cons, hs]
    exact ih fun y hy => h y (List.mem_cons_of_mem _ hy)

theorem share_of_took {endpoint : String} {source : S} {credential : Credential} {hold : Cache.Hold}
    {heard : List (Exchange (Cache.Answer (S := S)))}
    (h : Cache.Took endpoint source credential hold heard) :
    share (heard.map lift) = some ⟨sessionLabel endpoint credential, hold.session⟩ := by
  obtain ⟨rest, rfl, hq⟩ := h
  exact foldl_share_of_isQuiet hq _

variable [DecidableEq S] {s : ClientSettings S}

theorem asks_life {q : Question S} (h : Asks s.life told q) :
    (∃ heard q', Asks s.build heard q' ∧ told = heard.map lift ∧ q = .lookUp q') ∨
      ∃ heard c, Ends s.build heard (.ok c) ∧ told = heard.map lift ∧ q = .release c.session := by
  rcases asks_bind.mp h with h | ⟨r, t, u, hi, h, rfl⟩
  · obtain ⟨heard, t, u, q', hq', ht, hu, rfl⟩ := asks_interpret.mp h
    obtain rfl := eq_of_spells ht
    obtain ⟨rfl, rfl⟩ := asks_query.mp hu
    exact .inl ⟨heard, q', hq', List.append_nil _, rfl⟩
  · obtain ⟨heard, hb, ht⟩ := ends_interpret.mp hi
    obtain rfl := eq_of_spells ht
    cases r with
    | error e => cases h
    | ok c =>
      cases h with
      | now => exact .inr ⟨heard, c, hb, List.append_nil _, rfl⟩
      | later h => cases h

theorem ends_life_error {e : Error} (h : Ends s.life told (.error e)) :
    ∃ heard, Ends s.build heard (.error e) ∧ told = heard.map lift := by
  obtain ⟨r, t, u, hi, h, rfl⟩ := ends_bind.mp h
  obtain ⟨heard, hb, ht⟩ := ends_interpret.mp hi
  obtain rfl := eq_of_spells ht
  cases r with
  | error e' =>
    obtain ⟨rfl, he⟩ := ends_done.mp h
    obtain rfl := Except.error.inj he
    exact ⟨heard, hb, List.append_nil _⟩
  | ok c =>
    cases h with
    | later h => cases h

/-- A client that is built holds the session that it carries. -/
theorem share_of_built {heard : List (Exchange (Cache.Answer (S := S)))} {c : Client}
    (h : Ends s.build heard (.ok c)) :
    ∃ label, share (heard.map lift) = some ⟨label, c.session⟩ := by
  obtain ⟨api, source, -, -, h⟩ := ClientSettings.ends_build_ok h
  rcases Cache.ends_lookUp h with ⟨_, -, hr⟩ | ⟨credential, hold, ht, hr⟩
  · cases hr
  · rw [share_of_took ht, Except.ok.inj hr]
    exact ⟨_, rfl⟩

theorem share_of_release {session : SessionId} (h : Asks s.life told (.release session)) :
    ∃ label, share told = some ⟨label, session⟩ := by
  rcases asks_life h with ⟨_, _, _, _, hq⟩ | ⟨heard, c, hb, rfl, hq⟩
  · cases hq
  · obtain rfl := Question.release.inj hq
    exact share_of_built hb

/-- A client takes hold of a session once, after its source yielded a credential. -/
theorem attach_of_life {label endpoint : String} {source : S}
    (h : Asks s.life told (.lookUp (.attach label endpoint source))) :
    ∃ api credential, s.addresses = .ok (api, endpoint) ∧ s.source = some source ∧
      told = [⟨.lookUp (.read source), .ok credential⟩] ∧ label = sessionLabel endpoint credential := by
  rcases asks_life h with ⟨heard, q', hb, rfl, hq⟩ | ⟨_, _, _, _, hq⟩
  · obtain rfl := Question.lookUp.inj hq
    obtain ⟨api, credential, ha, hs, rfl, hl⟩ := ClientSettings.attach_of_build hb
    exact ⟨api, credential, ha, hs, rfl, hl⟩
  · cases hq

/-- What a client holds goes by its endpoint and by the credential that its source yielded. -/
theorem label_of_life {held : Cache.Share} (h : s.life.Hears told) (hs : share told = some held) :
    ∃ api auth source credential, s.addresses = .ok (api, auth) ∧ s.source = some source ∧
      ⟨.lookUp (.read source), .ok credential⟩ ∈ told ∧ held.label = sessionLabel auth credential := by
  obtain ⟨x, hx, endpoint, source, hq⟩ := attach_of_share hs
  obtain ⟨t, u, rfl⟩ := List.append_of_mem hx
  obtain ⟨api, credential, ha, hsource, rfl, hl⟩ := attach_of_life (hq ▸ h.asks)
  exact ⟨api, endpoint, source, credential, ha, hsource, List.mem_append_left _ List.mem_cons_self, hl⟩

/-- A build that fails has only read its source. -/
theorem reads_of_failed {e : Error} (h : Ends s.life told (.error e)) (hx : x ∈ told) :
    ∃ source, x.question = .lookUp (.read source) := by
  obtain ⟨heard, hb, rfl⟩ := ends_life_error h
  obtain ⟨y, hy, rfl⟩ := List.mem_map.mp hx
  obtain ⟨source, hs⟩ := ClientSettings.ends_build_error hb y hy
  exact ⟨source, congrArg Question.lookUp hs⟩

end Sharing

end ClusterOperator.Provider
