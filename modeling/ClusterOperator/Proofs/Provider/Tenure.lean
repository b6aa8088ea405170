import ClusterOperator.Proofs.Provider.Life

/-!
# The tenure of a client

A client is built, works at its session, and is dropped. All that it asks of a session, it
asks of the one that it took hold of in its build, with a credential that its source yielded.
-/

namespace ClusterOperator.Provider

open Program

variable {S : Type}

/-! ## Repairs of a session that was there -/

namespace Cache

/-- Gives no session but this a source, and no source but this. -/
def Question.Gives (session : SessionId) (source : S) : Question S → Prop
  | .replaceSource session' source' => session' = session ∧ source' = source
  | _ => True

variable [DecidableEq S] {endpoint : String} {session : SessionId} {source source' : S}
  {told : List (Exchange (Answer (S := S)))}

theorem only_repair_gives {credential : Credential} :
    Only (·.Gives session source) (repair session source credential) := by
  refine only_ask trivial fun current => ?_
  show Only _ (ite _ _ _)
  split
  · exact only_done
  · refine only_ask trivial fun existing => ?_
    show Only _ (ite _ _ _)
    split
    · exact only_done
    · exact only_ask ⟨rfl, rfl⟩ fun _ => only_ask trivial fun _ => only_done

theorem replace_of_lookUp (h : Asks (lookUp endpoint source) told (.replaceSource session source')) :
    ∃ credential hold, Took endpoint source credential hold told ∧ session = hold.session ∧
      source' = source := by
  rw [lookUp_eq] at h
  cases h with
  | @later _ _ _ r told h =>
    cases r with
    | error e => cases h
    | ok credential =>
      cases h with
      | @later _ _ _ hold told h =>
        have hq : ∀ x ∈ told, x.question.isQuiet := fun x hx => only_settle.hears h.heard hx
        unfold settle at h
        rcases asks_bind.mp h with h₁ | ⟨_, _, _, _, h₁, _⟩
        · split at h₁
          · obtain ⟨hs, hr⟩ := only_repair_gives _ _ h₁
            exact ⟨credential, hold, ⟨told, rfl, hq⟩, hs, hr⟩
          · cases h₁
        · cases h₁

end Cache

/-! ## Whole tenures -/

namespace Tenancy

inductive Question (S : Type) where
  | lookUp (q : Cache.Question S)
  | call (c : Client) (q : Client.Question)
  | release (session : SessionId)

@[reducible] def Answer : Question S → Type
  | .lookUp q => Cache.Answer q
  | .call _ q => Client.Answer q
  | .release _ => Unit

end Tenancy

open Tenancy

def ClientSettings.tenure [DecidableEq S] (s : ClientSettings S)
    (work : Client → Program Client.Answer Unit) : Program (Answer (S := S)) (Except Error Client) :=
  (s.build.interpret fun q => .query (.lookUp q)).bind fun
    | .error e => .done (.error e)
    | .ok c => ((work c).interpret fun q => .query (.call c q)).bind fun _ =>
      .ask (.release c.session) fun _ => .done (.ok c)

namespace Tenancy

def lift (x : Exchange (Cache.Answer (S := S))) : Exchange (Answer (S := S)) :=
  ⟨.lookUp x.question, x.answer⟩

/-- The first that was told: a source yielded a credential, and a session was taken hold of
by it. -/
def tookHold (session : SessionId) (known : Bool) (endpoint : String) (source : S)
    (credential : Credential) : List (Exchange (Answer (S := S))) :=
  [⟨.lookUp (.read source), .ok credential⟩,
    ⟨.lookUp (.attach (sessionLabel endpoint credential) endpoint source), ⟨session, known⟩⟩]

def Holds (session : SessionId) (endpoint : String) (source : S) (credential : Credential)
    (told : List (Exchange (Answer (S := S)))) : Prop :=
  ∃ known, tookHold session known endpoint source credential <+: told

variable {session : SessionId} {endpoint label : String} {source : S} {credential : Credential}
  {told more : List (Exchange (Answer (S := S)))} {x : Exchange (Answer (S := S))} {q : Question S}

theorem Holds.append (h : Holds session endpoint source credential told) :
    Holds session endpoint source credential (told ++ more) := by
  obtain ⟨known, h⟩ := h
  exact ⟨known, h.trans (List.prefix_append _ _)⟩

theorem not_holds_nil : ¬ Holds session endpoint source credential [] := by
  rintro ⟨known, h⟩
  cases List.prefix_nil.mp h

/-- Who holds a session held it before the last exchange, or has taken hold of it by it. -/
theorem Holds.before (h : Holds session endpoint source credential (told ++ [x])) :
    Holds session endpoint source credential told ∨ ∃ known : Bool,
      x = ⟨.lookUp (.attach (sessionLabel endpoint credential) endpoint source), ⟨session, known⟩⟩ := by
  obtain ⟨known, h⟩ := h
  rcases List.prefix_concat_iff.mp h with h | h
  · have hl := congrArg List.getLast? h
    rw [List.getLast?_concat] at hl
    exact .inr ⟨known, (Option.some.inj hl).symm⟩
  · exact .inl ⟨known, h⟩

theorem holds_of_took {hold : Cache.Hold} {heard : List (Exchange (Cache.Answer (S := S)))}
    (h : Cache.Took endpoint source credential hold heard) :
    Holds hold.session endpoint source credential (heard.map lift) := by
  obtain ⟨rest, rfl, -⟩ := h
  exact ⟨hold.known, rest.map lift, rfl⟩

variable [DecidableEq S] {s : ClientSettings S} {work : Client → Program Client.Answer Unit}

theorem asks_tenure (h : Asks (s.tenure work) told q) :
    (∃ heard q', Asks s.build heard q' ∧ told = heard.map lift ∧ q = .lookUp q') ∨
      ∃ heard c rest, Ends s.build heard (.ok c) ∧ told = heard.map lift ++ rest ∧
        ((∃ q', q = .call c q') ∨ q = .release c.session) := by
  rcases asks_bind.mp h with h₁ | ⟨r, t, u, hi, h₁, rfl⟩
  · obtain ⟨heard, t, u, q', hq', ht, hu, rfl⟩ := asks_interpret.mp h₁
    obtain ⟨rfl, rfl⟩ := asks_query.mp hu
    exact .inl ⟨heard, q', hq', (List.append_nil t).trans (spells_query.mp ht), rfl⟩
  obtain ⟨heard, hb, ht⟩ := ends_interpret.mp hi
  obtain rfl := spells_query.mp ht
  cases r with
  | error e => cases h₁
  | ok c =>
    refine .inr ⟨heard, c, u, hb, rfl, ?_⟩
    rcases asks_bind.mp h₁ with h₂ | ⟨_, _, _, -, h₂, -⟩
    · obtain ⟨_, _, _, q', -, -, hu, -⟩ := asks_interpret.mp h₂
      exact .inl ⟨q', (asks_query.mp hu).2⟩
    · cases h₂ with
      | now => exact .inr rfl
      | later h₂ => cases h₂

def onCall (c : Client) (x : Exchange Client.Answer) : Exchange (Answer (S := S)) :=
  ⟨.call c x.question, x.answer⟩

theorem asks_call_of_built {heard : List (Exchange (Cache.Answer (S := S)))} {c : Client}
    {q : Client.Question} (asked : List (Exchange Client.Answer)) (hb : Ends s.build heard (.ok c))
    (hw : Asks (work c) asked q) :
    Asks (s.tenure work) (heard.map lift ++ asked.map (onCall c)) (.call c q) := by
  have hh : Ends (s.build.interpret fun q => .query (Question.lookUp q)) (heard.map lift)
      (.ok c) := ends_interpret.mpr ⟨heard, hb, spells_query.mpr rfl⟩
  have ha : Asks ((work c).interpret fun q => .query (Question.call (S := S) c q))
      (asked.map (onCall c)) (.call c q) :=
    asks_interpret.mpr ⟨asked, _, [], q, hw, spells_query.mpr rfl, asks_query.mpr ⟨rfl, rfl⟩,
      (List.append_nil _).symm⟩
  exact hh.asks_bind ha.bind

theorem attach_of_tenure (h : Asks (s.tenure work) told (.lookUp (.attach label endpoint source))) :
    ∃ api credential, s.addresses = .ok (api, endpoint) ∧ s.source = some source ∧
      told = [⟨.lookUp (.read source), .ok credential⟩] ∧ label = sessionLabel endpoint credential := by
  rcases asks_tenure h with ⟨heard, q', hb, rfl, hq⟩ | ⟨_, _, _, _, _, ⟨_, hq⟩ | hq⟩
  · obtain rfl := Question.lookUp.inj hq
    obtain ⟨api, credential, ha, hs, rfl, hl⟩ := ClientSettings.attach_of_build hb
    exact ⟨api, credential, ha, hs, rfl, hl⟩
  · cases hq
  · cases hq

/-- A client gives its source to no session but the one it holds. -/
theorem replace_of_tenure (h : Asks (s.tenure work) told (.lookUp (.replaceSource session source))) :
    ∃ endpoint credential, Holds session endpoint source credential told := by
  rcases asks_tenure h with ⟨heard, q', hb, rfl, hq⟩ | ⟨_, _, _, _, _, ⟨_, hq⟩ | hq⟩
  · obtain rfl := Question.lookUp.inj hq
    obtain ⟨api, auth, source', -, -, hl⟩ := ClientSettings.asks_build hb
    obtain ⟨credential, hold, ht, rfl, rfl⟩ := Cache.replace_of_lookUp hl
    exact ⟨auth, credential, holds_of_took ht⟩
  · cases hq
  · cases hq

/-- A client makes its calls at the session that it holds. -/
theorem call_of_tenure {c : Client} {q : Client.Question}
    (h : Asks (s.tenure work) told (.call c q)) : ∃ source credential, s.source = some source ∧
      Holds c.session c.authUrl source credential told := by
  rcases asks_tenure h with ⟨_, _, _, _, hq⟩ | ⟨heard, c', rest, hb, rfl, ⟨q', hq⟩ | hq⟩
  · cases hq
  · obtain ⟨rfl, -⟩ := Question.call.inj hq
    obtain ⟨api, source, -, hs, hl⟩ := ClientSettings.ends_build_ok hb
    rcases Cache.ends_lookUp hl with ⟨_, -, hr⟩ | ⟨credential, hold, ht, hr⟩
    · cases hr
    · obtain hr := Except.ok.inj hr
      rw [hr]
      exact ⟨source, credential, hs, (holds_of_took ht).append⟩
  · cases hq

/-- Who holds a session was built for its endpoint and with the source that yielded for it. -/
theorem settings_of_holds (h : (s.tenure work).Hears told)
    (hh : Holds session endpoint source credential told) :
    (∃ api, s.addresses = .ok (api, endpoint)) ∧ s.source = some source := by
  obtain ⟨known, rest, rfl⟩ := hh
  have ha := Hears.asks (s := [⟨.lookUp (.read source), .ok credential⟩]) (t := rest) h
  obtain ⟨api, _, hu, hs, -, -⟩ := attach_of_tenure ha
  exact ⟨⟨api, hu⟩, hs⟩

end Tenancy

end ClusterOperator.Provider
