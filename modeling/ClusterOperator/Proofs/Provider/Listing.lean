import ClusterOperator.Proofs.Program.Performance
import ClusterOperator.Proofs.Provider.Calls

/-!
# Listing clusters, and finding one by its name

A listing is a request for the teams and then one for each team, in the provider's order. The
first that fails, be it for the login or for the answer, ends it with its error. A lookup by name
is a listing that went well and one request more, for the detail of the first cluster of the name.
-/

namespace ClusterOperator.Provider.Client

open Program

variable {α : Type} {heard part told : List (Exchange Answer)} {r : Request} {name : String}
  {team : Team} {teams : List Team} {list : ClusterList} {lists : List ClusterList}
  {clusters : List ClusterDetail} {e : Error}

/-! ## One request -/

/-- The requests that were sent, in order. -/
def sent (heard : List (Exchange Answer)) : List Request :=
  heard.filterMap fun
    | ⟨.send r, _⟩ => some r
    | _ => none

theorem sent_append (t u : List (Exchange Answer)) : sent (t ++ u) = sent t ++ sent u :=
  List.filterMap_append

/-- What becomes of a request for a record: the login may be unusable, and the reply a failure,
a refusal or unreadable. -/
inductive Fetches (read : Nat → Json.Read α) (r : Request) :
    List (Exchange Answer) → Except Error α → Prop
  | unusable {state : LoginState} {e : Error} : state.check = .error e →
    Fetches read r [⟨.check, state⟩] (.error e)
  | replied {state : LoginState} {reply : Except Error Http.Response} : state.check = .ok () →
    Fetches read r [⟨.check, state⟩, ⟨.send r, reply⟩] (reply.bind (decode read))

theorem fetches_of_ends {read : Nat → Json.Read α} {a : Except Error α}
    (h : Ends (fetch read r).run heard a) : Fetches read r heard a := by
  rcases ends_send_read h with ⟨state, e, hs, rfl, rfl⟩ | ⟨state, reply, hs, rfl, rfl⟩
  · exact .unusable hs
  · exact .replied hs

theorem Fetches.sent_ok {read : Nat → Json.Read α} {a : α} (h : Fetches read r heard (.ok a)) :
    sent heard = [r] := by
  generalize hb : Except.ok a = b at h
  cases h with
  | unusable _ => cases hb
  | replied _ => rfl

/-- A request that fails was the last to be sent, unless the login kept it from being sent. -/
theorem Fetches.sent_prefix {read : Nat → Json.Read α} {a : Except Error α}
    (h : Fetches read r heard a) : sent heard <+: [r] := by
  cases h with
  | unusable _ => exact List.nil_prefix
  | replied _ => exact List.prefix_refl _

/-! ## Team by team -/

def teamsRequest : Request := ⟨.get, "/teams", [], none⟩

def clustersRequest (team : String) : Request := ⟨.get, "/clusters", [("team_id", team)], none⟩

/-- Each team's clusters are asked for, and all answers are listings. -/
inductive Surveys : List Team → List (Exchange Answer) → List ClusterList → Prop
  | nil : Surveys [] [] []
  | cons {team : Team} {teams : List Team} {part told : List (Exchange Answer)} {list : ClusterList}
      {lists : List ClusterList} : Fetches ClusterList.read (clustersRequest team.id) part (.ok list) →
    Surveys teams told lists → Surveys (team :: teams) (part ++ told) (list :: lists)

theorem Surveys.sent (h : Surveys teams heard lists) :
    sent heard = teams.map fun team => clustersRequest team.id := by
  induction h with
  | nil => rfl
  | cons hf _ ih => rw [sent_append, hf.sent_ok, ih]; rfl

/-- The clusters of teams are those of the listings, one listing after the other. -/
theorem surveys_of_ends (h : Ends (clustersOf teams).run heard (.ok clusters)) :
    ∃ lists, Surveys teams heard lists ∧ clusters = lists.flatMap (·.clusters) := by
  induction teams generalizing heard clusters with
  | nil =>
    obtain ⟨rfl, rfl⟩ := ends_clustersOf_nil h
    exact ⟨[], .nil, rfl⟩
  | cons team teams ih =>
    obtain ⟨list, more, t, u, ht, hu, rfl, rfl⟩ := ends_clustersOf_cons h
    obtain ⟨lists, hl, rfl⟩ := ih hu
    exact ⟨list :: lists, .cons (fetches_of_ends ht) hl, rfl⟩

/-- If the clusters of teams cannot be had, then for the first team whose listing fails. -/
theorem fails_of_ends (h : Ends (clustersOf teams).run heard (.error e)) :
    ∃ before team after told lists part, teams = before ++ team :: after ∧ heard = told ++ part ∧
      Surveys before told lists ∧
      Fetches ClusterList.read (clustersRequest team.id) part (.error e) := by
  induction teams generalizing heard with
  | nil => cases (ends_value.mp h).2
  | cons team teams ih =>
    rcases ends_try_bind.mp h with ⟨e, ht, h₁⟩ | ⟨list, t, u, ht, h₁, rfl⟩
    · cases h₁
      exact ⟨[], team, teams, [], [], heard, rfl, rfl, .nil, fetches_of_ends ht⟩
    rcases ends_try_bind.mp h₁ with ⟨e, hu, h₂⟩ | ⟨more, u, v, -, h₂, -⟩
    · cases h₂
      obtain ⟨before, next, after, told, lists, part, rfl, rfl, hl, hf⟩ := ih hu
      exact ⟨team :: before, next, after, t ++ told, list :: lists, part, rfl,
        (List.append_assoc ..).symm, .cons (fetches_of_ends ht) hl, hf⟩
    · cases (ends_value.mp h₂).2

/-! ## All clusters -/

/-- What becomes of a listing of all clusters, with the teams that were listed for it. -/
inductive Lists : List (Exchange Answer) → List Team → Except Error (List ClusterDetail) → Prop
  | complete {part told : List (Exchange Answer)} {teams : List Team} {lists : List ClusterList} :
    Fetches TeamList.read teamsRequest part (.ok ⟨teams⟩) → Surveys teams told lists →
    Lists (part ++ told) teams (.ok (lists.flatMap (·.clusters)))
  | teamless {part : List (Exchange Answer)} {e : Error} :
    Fetches TeamList.read teamsRequest part (.error e) → Lists part [] (.error e)
  | brokenOff {part told last : List (Exchange Answer)} {before after : List Team} {team : Team}
      {lists : List ClusterList} {e : Error} :
    Fetches TeamList.read teamsRequest part (.ok ⟨before ++ team :: after⟩) →
    Surveys before told lists →
    Fetches ClusterList.read (clustersRequest team.id) last (.error e) →
    Lists (part ++ (told ++ last)) (before ++ team :: after) (.error e)

/-- The requests of a listing that nothing fails. -/
def listingRequests (teams : List Team) : List Request :=
  teamsRequest :: teams.map fun team => clustersRequest team.id

theorem lists_of_ends {a : Except Error (List ClusterDetail)} (h : Ends allClusters.run heard a) :
    ∃ teams, Lists heard teams a := by
  rcases ends_try_bind.mp h with ⟨e, ht, rfl⟩ | ⟨⟨teams⟩, t, u, ht, hu, rfl⟩
  · exact ⟨[], .teamless (fetches_of_ends ht)⟩
  cases a with
  | ok clusters =>
    obtain ⟨lists, hl, rfl⟩ := surveys_of_ends hu
    exact ⟨teams, .complete (fetches_of_ends ht) hl⟩
  | error e =>
    obtain ⟨before, team, after, told, lists, part, rfl, rfl, hl, hf⟩ := fails_of_ends hu
    exact ⟨_, .brokenOff (fetches_of_ends ht) hl hf⟩

theorem Lists.sent_ok (h : Lists heard teams (.ok clusters)) : sent heard = listingRequests teams := by
  generalize ha : Except.ok clusters = a at h
  cases h with
  | complete hf hl => rw [sent_append, hf.sent_ok, hl.sent]; rfl
  | teamless _ => cases ha
  | brokenOff _ _ _ => cases ha

theorem Lists.sent_prefix {a : Except Error (List ClusterDetail)} (h : Lists heard teams a) :
    sent heard <+: listingRequests teams := by
  cases h with
  | complete hf hl => exact (Lists.complete hf hl).sent_ok ▸ List.prefix_refl _
  | teamless hf => exact hf.sent_prefix
  | @brokenOff _ _ _ before after team _ _ hf hl hlast =>
    have hlist : listingRequests (before ++ team :: after) =
        ([teamsRequest] ++ before.map fun team => clustersRequest team.id) ++
          ([clustersRequest team.id] ++ after.map fun team => clustersRequest team.id) := by
      simp [listingRequests]
    rw [sent_append, sent_append, hf.sent_ok, hl.sent, hlist, ← List.append_assoc,
      List.prefix_append_right_inj]
    exact hlast.sent_prefix.trans (List.prefix_append _ _)

/-! ## One cluster by its name -/

/-- What a lookup does once all clusters were listed, or could not be. -/
def afterListing (name : String) : Except Error (List ClusterDetail) → Program Answer (Except Error ClusterDetail)
  | .error e => .done (.error e)
  | .ok clusters =>
    match clusters.find? (·.name = name) with
    | some cluster => (detail cluster.id).run
    | none => .done (.ok .empty)

theorem byName_eq (name : String) : (byName name).run = allClusters.run.bind (afterListing name) := by
  refine congrArg (allClusters.run.bind ·) (funext fun a => ?_)
  cases a with
  | error e => rfl
  | ok clusters =>
    unfold afterListing
    cases h : clusters.find? (·.name = name) with
    | none => simp only [ExceptT.bindCont, h]; rfl
    | some c => simp only [ExceptT.bindCont, h]; rfl

theorem afterListing_none (h : ∀ c ∈ clusters, c.name ≠ name) :
    afterListing name (.ok clusters) = .done (.ok .empty) := by
  have hf : clusters.find? (·.name = name) = none := by
    simpa using h
  simp only [afterListing, hf]

theorem afterListing_some {before after : List ClusterDetail} {c : ClusterDetail}
    (hb : ∀ b ∈ before, b.name ≠ name) (hc : c.name = name) :
    afterListing name (.ok (before ++ c :: after)) = (detail c.id).run := by
  have hf : (before ++ c :: after).find? (·.name = name) = some c := by
    refine List.find?_eq_some_iff_append.mpr ⟨by simpa using hc, before, after, rfl, ?_⟩
    simpa using hb
  simp only [afterListing, hf]

/-- A list has no cluster of the name, or a first one. -/
theorem named_cases (name : String) (clusters : List ClusterDetail) :
    (∀ c ∈ clusters, c.name ≠ name) ∨ ∃ before c after, clusters = before ++ c :: after ∧
      (∀ b ∈ before, b.name ≠ name) ∧ c.name = name := by
  cases h : clusters.find? (·.name = name) with
  | none => exact .inl (by simpa using h)
  | some c =>
    obtain ⟨hc, before, after, rfl, hb⟩ := List.find?_eq_some_iff_append.mp h
    exact .inr ⟨before, c, after, rfl, by simpa using hb, by simpa using hc⟩

section
variable {σ : Type} (answer : (q : Question) → σ → Answer q × σ) (s : σ)

theorem fetches_detail (id : String) :
    Fetches ClusterDetail.read ⟨.get, "/clusters/" ++ id, [], none⟩
      ((detail id).run.transcript answer s) ((detail id).run.run answer s).1 :=
  fetches_of_ends (ends_transcript _ _)

/-- A cluster that was found is asked for, so if nothing was asked then none was found. -/
theorem afterListing_empty_iff (listing : Except Error (List ClusterDetail)) :
    ((afterListing name listing).run answer s).1 = .ok .empty ∧
        sent ((afterListing name listing).transcript answer s) = [] ↔
      ∃ clusters, listing = .ok clusters ∧ ∀ c ∈ clusters, c.name ≠ name := by
  constructor
  · rintro ⟨hempty, hsent⟩
    cases listing with
    | error e => cases hempty
    | ok clusters =>
      refine ⟨clusters, rfl, ?_⟩
      rcases named_cases name clusters with hn | ⟨before, c, after, rfl, hb, hc⟩
      · exact hn
      · rw [afterListing_some hb hc] at hempty hsent
        have hf := fetches_detail answer s c.id
        rw [hempty] at hf
        cases hf.sent_ok.symm.trans hsent
  · rintro ⟨clusters, rfl, hn⟩
    rw [afterListing_none hn]
    exact ⟨rfl, rfl⟩

/-- Whatever the login and the provider answer: a listing asks for the teams and then for the
clusters of each, in the order of the teams, up to the first request that fails, and answers the
listings one after the other or else the error of that request. A lookup by name is told the same
first, and ends with it if it failed; then it asks for the detail of the first cluster of the
name and answers that. It answers the empty detail without a further request if and only if the
listing went well and has no cluster of the name. -/
theorem listing_and_lookup (name : String) :
    let told := allClusters.run.transcript answer s
    let listing := (allClusters.run.run answer s).1
    let toldOf := (byName name).run.transcript answer s
    let lookup := ((byName name).run.run answer s).1
    (∃ teams, Lists told teams listing ∧ sent told <+: listingRequests teams ∧
      ∀ clusters, listing = .ok clusters → sent told = listingRequests teams) ∧
    (∀ e, listing = .error e → toldOf = told ∧ lookup = .error e) ∧
    (∀ clusters before c after, listing = .ok clusters → clusters = before ++ c :: after →
      (∀ b ∈ before, b.name ≠ name) → c.name = name → ∃ more, toldOf = told ++ more ∧
        Fetches ClusterDetail.read ⟨.get, "/clusters/" ++ c.id, [], none⟩ more lookup) ∧
    (lookup = .ok .empty ∧ sent toldOf = sent told ↔
      ∃ clusters, listing = .ok clusters ∧ ∀ c ∈ clusters, c.name ≠ name) := by
  intro told listing toldOf lookup
  have hends : Ends allClusters.run told listing := ends_transcript _ _
  obtain ⟨s', htold, hlook⟩ : ∃ s', toldOf = told ++ (afterListing name listing).transcript answer s' ∧
      lookup = ((afterListing name listing).run answer s').1 := by
    refine ⟨(allClusters.run.run answer s).2, ?_, ?_⟩
    · simp only [toldOf, byName_eq]
      exact transcript_bind _ _ _
    · simp only [lookup, byName_eq]
      exact congrArg Prod.fst (run_bind _ _ _ _)
  clear_value told listing toldOf lookup
  refine ⟨?_, ?_, ?_, ?_⟩
  · obtain ⟨teams, hl⟩ := lists_of_ends hends
    exact ⟨teams, hl, hl.sent_prefix, fun clusters hc => (hc ▸ hl).sent_ok⟩
  · rintro e rfl
    exact ⟨htold.trans (List.append_nil _), hlook⟩
  · rintro clusters before c after rfl rfl hb hc
    rw [afterListing_some hb hc] at htold hlook
    exact ⟨_, htold, hlook ▸ fetches_detail answer s' c.id⟩
  have hsent : sent toldOf = sent told ↔ sent ((afterListing name listing).transcript answer s') = [] := by
    rw [htold, sent_append, List.append_right_eq_self]
  rw [hsent, hlook]
  exact afterListing_empty_iff answer s' listing

end

end ClusterOperator.Provider.Client
