import ClusterOperator.Proofs.Program.Transcript
import ClusterOperator.Provider.Client

/-!
# What calls were told

The transcripts of a client's calls. A request is sent only after the login was
found active, and only a create request is a `POST`.
-/

namespace ClusterOperator.Provider.Client

open Program

variable {α β : Type} {heard : List (Exchange Answer)} {q : Question} {r : Request}

theorem ends_value {a b : Except Error α} :
    Ends (ExceptT.mk (.done a) : Call α).run heard b ↔ heard = [] ∧ b = a := ends_done

theorem ends_check {a : Except Error Unit} :
    Ends check.run heard a ↔ ∃ state, heard = [⟨.check, state⟩] ∧ a = state.check := by
  constructor
  · intro h
    rcases ends_try_bind.mp h with ⟨e, h₁, rfl⟩ | ⟨state, t, u, h₁, h₂, rfl⟩
    · obtain ⟨_, t, u, -, hu, -⟩ := ends_bind.mp h₁
      cases (ends_done.mp hu).2
    · obtain ⟨_, t, u, ht, hu, rfl⟩ := ends_bind.mp h₁
      obtain ⟨rfl, hs⟩ := ends_done.mp hu
      cases hs
      obtain rfl := ends_query.mp ht
      obtain ⟨rfl, rfl⟩ := ends_value.mp h₂
      exact ⟨state, rfl, rfl⟩
  · rintro ⟨state, rfl, rfl⟩
    exact .later .now

theorem asks_check (h : Asks check.run heard q) : heard = [] ∧ q = .check := by
  rcases asks_try_bind.mp h with h₁ | ⟨state, t, u, -, h₁, -⟩
  · rcases asks_bind.mp h₁ with h₂ | ⟨_, t, u, -, h₂, -⟩
    · exact asks_query.mp h₂
    · exact absurd h₂ asks_done
  · exact absurd h₁ asks_done

theorem asks_send (h : Asks (send r).run heard q) : q = .check ∨ q = .send r := by
  rcases asks_try_bind.mp h with h₁ | ⟨_, t, u, -, h₁, -⟩
  · exact .inl (asks_check h₁).2
  · exact .inr (asks_query.mp h₁).2

theorem asks_create {r : CreateRequest} (h : Asks (create r).run heard q) :
    q = .check ∨ q = .send (createRequest r) := by
  rcases asks_try_bind.mp h with h₁ | ⟨_, t, u, -, h₁, -⟩
  · exact asks_send h₁
  · exact absurd h₁ asks_done

theorem ends_send {a : Except Error Http.Response} (h : Ends (send r).run heard a) :
    (∃ state e, state.check = .error e ∧ heard = [⟨.check, state⟩] ∧ a = .error e) ∨
      ∃ state, state.check = .ok () ∧ heard = [⟨.check, state⟩, ⟨.send r, a⟩] := by
  rcases ends_try_bind.mp h with ⟨e, h₁, rfl⟩ | ⟨_, t, u, h₁, h₂, rfl⟩
  · obtain ⟨state, rfl, hs⟩ := ends_check.mp h₁
    exact .inl ⟨state, e, hs.symm, rfl, rfl⟩
  · obtain ⟨state, rfl, hs⟩ := ends_check.mp h₁
    obtain rfl := ends_query.mp h₂
    exact .inr ⟨state, hs.symm, rfl⟩

theorem ends_send_read {f : Http.Response → Except Error α} {a : Except Error α}
    (h : Ends (send r >>= fun x => ExceptT.mk (.done (f x)) : Call α).run heard a) :
    (∃ state e, state.check = .error e ∧ heard = [⟨.check, state⟩] ∧ a = .error e) ∨
      ∃ state reply, state.check = .ok () ∧ heard = [⟨.check, state⟩, ⟨.send r, reply⟩] ∧
        a = reply.bind f := by
  rcases ends_try_bind.mp h with ⟨e, h₁, rfl⟩ | ⟨x, t, u, h₁, h₂, rfl⟩
  · rcases ends_send h₁ with ⟨state, e', hs, rfl, h₂⟩ | ⟨state, hs, rfl⟩
    · cases h₂
      exact .inl ⟨state, e, hs, rfl, rfl⟩
    · exact .inr ⟨state, .error e, hs, rfl, rfl⟩
  · obtain ⟨rfl, rfl⟩ := ends_value.mp h₂
    rcases ends_send h₁ with ⟨_, _, _, _, h₂⟩ | ⟨state, hs, rfl⟩
    · cases h₂
    · exact .inr ⟨state, .ok x, hs, by simp, rfl⟩

theorem ends_fetch {read : Nat → Json.Read α} {a : α} :
    Ends (fetch read r).run heard (.ok a) ↔ ∃ state response, state.check = .ok () ∧
      heard = [⟨.check, state⟩, ⟨.send r, .ok response⟩] ∧ decode read response = .ok a := by
  constructor
  · intro h
    rcases ends_send_read h with ⟨_, _, _, _, h₁⟩ | ⟨state, reply, hs, rfl, h₁⟩
    · cases h₁
    · cases reply with
      | error e => cases h₁
      | ok response => exact ⟨state, response, hs, rfl, h₁.symm⟩
  · rintro ⟨state, response, hs, rfl, hd⟩
    refine ends_try_bind.mpr (.inr ⟨response, _, [], ?_, ends_value.mpr ⟨rfl, hd.symm⟩,
      (List.append_nil _).symm⟩)
    exact ends_try_bind.mpr (.inr ⟨(), [_], [_], ends_check.mpr ⟨state, rfl, hs.symm⟩,
      ends_query.mpr rfl, rfl⟩)

/-! ## Listings -/

def Request.team? (r : Request) : Option String := r.query.lookup "team_id"

/-- The clusters that a response lists, each with the team that it is listed under. -/
def listing (r : Request) (response : Http.Response) : List (String × ClusterDetail) :=
  match r.team?, decode ClusterList.read response with
  | some team, .ok list => list.clusters.map (team, ·)
  | _, _ => []

def listed (heard : List (Exchange Answer)) : List (String × ClusterDetail) :=
  heard.flatMap fun
    | ⟨.send r, .ok response⟩ => listing r response
    | _ => []

theorem listed_append (t u : List (Exchange Answer)) : listed (t ++ u) = listed t ++ listed u :=
  List.flatMap_append

theorem listed_get {state : LoginState} {path : String} {reply : Except Error Http.Response} :
    listed [⟨.check, state⟩, ⟨.send (.get path), reply⟩] = [] := by
  cases reply <;> rfl

theorem listed_fetch {read : Nat → Json.Read α} {path : String} {a : Except Error α}
    (h : Ends (fetch read (.get path)).run heard a) : listed heard = [] := by
  rcases ends_send_read h with ⟨state, e, -, rfl, -⟩ | ⟨state, reply, -, rfl, -⟩
  · rfl
  · exact listed_get

theorem mem_listed {team : String} {d : ClusterDetail} (h : (team, d) ∈ listed heard) :
    ∃ r response list, ⟨.send r, .ok response⟩ ∈ heard ∧ r.team? = some team ∧
      decode ClusterList.read response = .ok list ∧ d ∈ list.clusters := by
  obtain ⟨⟨q, a⟩, hx, hm⟩ := List.mem_flatMap.mp h
  match q, a, hx, hm with
  | .send r, .ok response, hx, hm =>
    simp only [listing] at hm
    split at hm
    next t list ht hl =>
      obtain ⟨d', hd, he⟩ := List.mem_map.mp hm
      cases he
      exact ⟨r, response, list, hx, ht, hl, hd⟩
    · cases hm
  | .send _, .error _, _, hm => cases hm
  | .check, _, _, hm => cases hm
  | .state, _, _, hm => cases hm

theorem ends_teamClusters {team : String} {list : ClusterList}
    (h : Ends (teamClusters team).run heard (.ok list)) :
    listed heard = list.clusters.map (team, ·) := by
  obtain ⟨state, response, -, rfl, hd⟩ := ends_fetch.mp h
  have ht : Request.team? { Request.get clustersPath with query := [("team_id", team)] } =
      some team := by simp [Request.team?]
  simp [listed, listing, ht, hd]

theorem ends_clustersOf_nil {clusters : List ClusterDetail}
    (h : Ends (clustersOf []).run heard (.ok clusters)) : heard = [] ∧ clusters = [] := by
  obtain ⟨rfl, h₁⟩ := ends_value.mp h
  exact ⟨rfl, Except.ok.inj h₁⟩

theorem ends_clustersOf_cons {team : Team} {teams : List Team} {clusters : List ClusterDetail}
    (h : Ends (clustersOf (team :: teams)).run heard (.ok clusters)) : ∃ list more t u,
    Ends (teamClusters team.id).run t (.ok list) ∧ Ends (clustersOf teams).run u (.ok more) ∧
      heard = t ++ u ∧ clusters = list.clusters ++ more := by
  rcases ends_try_bind.mp h with ⟨e, -, h₁⟩ | ⟨list, t, u, ht, h₁, rfl⟩
  · cases h₁
  rcases ends_try_bind.mp h₁ with ⟨e, -, h₂⟩ | ⟨more, u, v, hu, h₂, rfl⟩
  · cases h₂
  obtain ⟨rfl, h₃⟩ := ends_value.mp h₂
  exact ⟨list, more, t, u, ht, hu, by rw [List.append_nil], Except.ok.inj h₃⟩

theorem ends_clustersOf : ∀ {teams : List Team} {heard : List (Exchange Answer)}
    {clusters : List ClusterDetail}, Ends (clustersOf teams).run heard (.ok clusters) →
    (listed heard).map Prod.snd = clusters
  | [], heard, clusters, h => by
    obtain ⟨rfl, rfl⟩ := ends_clustersOf_nil h
    rfl
  | team :: rest, heard, clusters, h => by
    obtain ⟨list, more, t, u, ht, hu, rfl, rfl⟩ := ends_clustersOf_cons h
    rw [listed_append, List.map_append, ends_teamClusters ht, ends_clustersOf hu]
    simp [Function.comp_def]

theorem ends_allClusters {clusters : List ClusterDetail}
    (h : Ends allClusters.run heard (.ok clusters)) : (listed heard).map Prod.snd = clusters := by
  rcases ends_try_bind.mp h with ⟨e, -, h₁⟩ | ⟨list, t, u, ht, hu, rfl⟩
  · cases h₁
  obtain ⟨state, response, -, rfl, -⟩ := ends_fetch.mp ht
  rw [listed_append, listed_get]
  exact ends_clustersOf hu

/-- A cluster of a name is the first that is listed under it, whatever its team. -/
theorem ends_byName {name : String} {d : ClusterDetail}
    (h : Ends (byName name).run heard (.ok d)) :
    match (listed heard).find? (·.2.name = name) with
    | some (_, first) => ∃ response, ⟨.send (.get (clusterPath first.id)), .ok response⟩ ∈ heard ∧
        decode ClusterDetail.read response = .ok d
    | none => d = .empty := by
  rcases ends_try_bind.mp h with ⟨e, -, h₁⟩ | ⟨clusters, t, u, ht, hu, rfl⟩
  · cases h₁
  have hc := ends_allClusters ht
  cases hf : (listed t).find? (·.2.name = name) with
  | none =>
    have hn : clusters.find? (·.name = name) = none := by
      rw [← hc, List.find?_map, Function.comp_def, hf]
      rfl
    rw [hn] at hu
    obtain ⟨rfl, h₁⟩ := ends_value.mp hu
    cases h₁
    rw [List.append_nil, hf]
  | some first =>
    have hn : clusters.find? (·.name = name) = some first.2 := by
      rw [← hc, List.find?_map, Function.comp_def, hf]
      rfl
    rw [hn] at hu
    obtain ⟨state, response, -, rfl, hd⟩ := ends_fetch.mp hu
    rw [listed_append, listed_get, List.append_nil, hf]
    exact ⟨response, by simp, hd⟩

/-! ## Which requests are sent -/

/-- No request to make something. -/
def Reads : Question → Prop
  | .send r => r.method ≠ .post
  | _ => True

theorem only_value {P : Question → Prop} {a : Except Error α} :
    Only P (ExceptT.mk (.done a) : Call α).run := fun _ _ h => absurd h asks_done

theorem only_send (hr : r.method ≠ .post) : Only Reads (send r).run := by
  intro told q h
  rcases asks_send h with rfl | rfl
  · trivial
  · exact hr

theorem only_fetch {read : Nat → Json.Read α} (hr : r.method ≠ .post) :
    Only Reads (fetch read r).run :=
  (only_send hr).try_bind fun _ => only_value

theorem only_clustersOf : ∀ teams, Only Reads (clustersOf teams).run
  | [] => only_value
  | team :: rest => by
    refine Only.try_bind (only_fetch (by simp [Request.get])) fun list => ?_
    exact (only_clustersOf rest).try_bind fun _ => only_value

theorem only_byName (name : String) : Only Reads (byName name).run := by
  refine Only.try_bind ((only_fetch (by decide)).try_bind fun _ => only_clustersOf _) fun list => ?_
  split
  · exact only_fetch (by simp [Request.get])
  · exact only_value

theorem only_personalTeam : Only Reads personalTeam.run := by
  refine (only_fetch (by decide)).try_bind fun list => ?_
  split
  · exact only_value
  · exact only_value

theorem only_delete (id : String) : Only Reads (delete id).run :=
  (only_send (by simp)).try_bind fun _ => only_value

end ClusterOperator.Provider.Client
