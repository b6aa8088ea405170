import ClusterOperator.Proofs.Provider.Tenants

/-!
# Sources that work

A lookup leaves the session that it gives out with a source that yields the caller's credential:
the session is new and has the caller's source, or its source has just been seen to yield that
credential, or it was given the caller's source. All the while sessions log in, renew and run out.
-/

namespace ClusterOperator.Provider.Tenancy

open Program Cache

variable {S : Type}

/-! ## One lookup -/

/-- An answer about a source is what that source yields. -/
def AsRead (reads : S → Except CredentialError Credential) : Exchange (Cache.Answer (S := S)) → Prop
  | ⟨.read source, r⟩ => r = reads source
  | _ => True

/-- What one client is told by the cache while no other one looks up anything or lets go of it.
Sources yield the same all the time. -/
inductive Undisturbed (settings : SessionSettings) (reads : S → Except CredentialError Credential) :
    Common S → List (Exchange (Cache.Answer (S := S))) → Common S → Prop
  | refl {w : Common S} : Undisturbed settings reads w [] w
  | drift {w u w' : Common S} {told : List (Exchange (Cache.Answer (S := S)))} :
    Drifts settings w u → Undisturbed settings reads u told w' → Undisturbed settings reads w told w'
  | told {w u w' : Common S} {x : Exchange (Cache.Answer (S := S))}
    {told : List (Exchange (Cache.Answer (S := S)))} : Answers settings w (lift x) u →
    AsRead reads x → Undisturbed settings reads u told w' →
    Undisturbed settings reads w (x :: told) w'

/-- No session has another source, and those who hold one are the same. -/
structure SameHold (w w' : Common S) : Prop where
  cache : w'.cache = w.cache
  sources : ∀ id, (w'.sessions id).session.source = (w.sessions id).session.source

variable {settings : SessionSettings} {reads : S → Except CredentialError Credential}
  {w u w' : Common S} {told : List (Exchange (Cache.Answer (S := S)))} {endpoint label : String}
  {session : SessionId} {source current : S} {credential : Credential}

theorem SameHold.refl (w : Common S) : SameHold w w := ⟨rfl, fun _ => rfl⟩

theorem SameHold.trans (h : SameHold w u) (h' : SameHold u w') : SameHold w w' :=
  ⟨h'.cache.trans h.cache, fun id => (h'.sources id).trans (h.sources id)⟩

/-- Only a replacement gives a session another source. -/
theorem Drifts.sameHold (h : Drifts settings w w') : SameHold w w' := by
  cases h with
  | @session id e t _ he hs =>
    refine ⟨rfl, fun id' => ?_⟩
    rw [Common.record_sessions, Common.put_sessions]
    split
    · next hid =>
      rcases hs.source with h | ⟨source, h, -⟩
      · rw [h, hid]
      · exact absurd h (he source)
    · rfl

namespace Undisturbed

theorem nil_inv (h : Undisturbed settings reads w [] w') : SameHold w w' := by
  generalize ht : ([] : List (Exchange (Cache.Answer (S := S)))) = t at h
  induction h with
  | refl => exact .refl _
  | drift hd _ ih => exact hd.sameHold.trans (ih ht)
  | told => cases ht

theorem cons_inv {x : Exchange (Cache.Answer (S := S))}
    (h : Undisturbed settings reads w (x :: told) w') :
    ∃ u v, SameHold w u ∧ Answers settings u (lift x) v ∧ AsRead reads x ∧
      Undisturbed settings reads v told w' := by
  generalize ht : x :: told = t at h
  induction h with
  | refl => cases ht
  | drift hd _ ih =>
    obtain ⟨u, v, hs, hx⟩ := ih ht
    exact ⟨u, v, hd.sameHold.trans hs, hx⟩
  | told ha hr hu _ =>
    obtain ⟨rfl, rfl⟩ := List.cons.inj ht
    exact ⟨_, _, .refl _, ha, hr, hu⟩

theorem sourceOf_inv (h : Undisturbed settings reads w (⟨.sourceOf session, current⟩ :: told) w') :
    current = (w.sessions session).session.source ∧
      ∃ v, SameHold w v ∧ Undisturbed settings reads v told w' := by
  obtain ⟨u, v, hs, ha, -, hu⟩ := h.cons_inv
  cases ha
  exact ⟨hs.sources session, u, hs, hu⟩

theorem read_inv {r : Except CredentialError Credential}
    (h : Undisturbed settings reads w (⟨.read source, r⟩ :: told) w') :
    r = reads source ∧ ∃ v, SameHold w v ∧ Undisturbed settings reads v told w' := by
  obtain ⟨u, v, hs, ha, hr, hu⟩ := h.cons_inv
  cases ha
  exact ⟨hr, u.record (Fact.ofRead source r), hs.trans ⟨rfl, fun _ => rfl⟩, hu⟩

theorem replaceSource_inv (h : Undisturbed settings reads w (⟨.replaceSource session source, ()⟩ :: told) w') :
    ∃ v, v.cache = w.cache ∧ (v.sessions session).session.source = source ∧
      Undisturbed settings reads v told w' := by
  obtain ⟨u, v, hs, ha, -, hu⟩ := h.cons_inv
  cases ha with
  | @replaceSource _ _ t ht =>
    refine ⟨u.put session t, hs.cache, ?_, hu⟩
    cases ht
    rw [Common.put_sessions, if_pos rfl]
    rfl

theorem ping_inv (h : Undisturbed settings reads w (⟨.ping session, ()⟩ :: told) w') :
    ∃ v, SameHold w v ∧ Undisturbed settings reads v told w' := by
  obtain ⟨u, v, hs, ha, -, hu⟩ := h.cons_inv
  cases ha
  exact ⟨u, hs, hu⟩

/-- Who takes hold of a session holds the one under the label, and a new one has the given
source. -/
theorem attach_inv {hold : Hold}
    (h : Undisturbed settings reads w (⟨.attach label endpoint source, hold⟩ :: told) w') :
    ∃ v, Undisturbed settings reads v told w' ∧
      (∃ entry ∈ v.cache.entries, entry.label = label ∧ entry.session = hold.session) ∧
      (hold.known = false → (v.sessions hold.session).session.source = source) := by
  obtain ⟨u, v, hs, ha, -, hu⟩ := h.cons_inv
  cases ha with
  | join ht hk =>
    refine ⟨_, hu, ?_, fun hn => absurd (hk.symm.trans hn) (by decide)⟩
    rcases attach_cases ht with ⟨entry, he, hl, rfl, rfl⟩ | ⟨-, rfl, -⟩
    · exact ⟨entry.join label, List.mem_map_of_mem he, Entry.join_label.trans hl, Entry.join_session⟩
    · cases hk
  | opens now ht hk =>
    rcases attach_cases ht with ⟨entry, he, hl, rfl, rfl⟩ | ⟨-, rfl, rfl⟩
    · cases hk
    · refine ⟨_, hu, ⟨⟨label, u.bound, 1⟩, by simp, rfl, rfl⟩, fun _ => ?_⟩
      change ((u.put u.bound _).sessions u.bound).session.source = source
      rw [Common.put_sessions, if_pos rfl]
      rfl

end Undisturbed

variable [DecidableEq S]

/-- A session that was there yields the credential after its repair. -/
theorem source_of_repair (hc : reads source = .ok credential)
    (he : Ends (repair session source credential) told ()) (h : Undisturbed settings reads w told w') :
    w'.cache = w.cache ∧ reads (w'.sessions session).session.source = .ok credential := by
  change Ends (.ask (.sourceOf session) fun current => if current = source then .done () else
    .ask (.read current) fun existing => if existing.toOption = some credential then .done () else
      .ask (.replaceSource session source) fun _ => .ask (.ping session) .done) told () at he
  cases he with
  | @later _ _ current told _ he =>
    obtain ⟨hcurrent, u, hs, h⟩ := h.sourceOf_inv
    change Ends (ite _ _ _) _ _ at he
    split at he
    · -- the session has the caller's source
      next heq =>
      obtain ⟨rfl, -⟩ := ends_done.mp he
      have hs' := hs.trans h.nil_inv
      exact ⟨hs'.cache, by rw [hs'.sources, ← hcurrent, heq, hc]⟩
    · cases he with
      | @later _ _ existing told _ he =>
        obtain ⟨hexisting, v, hs', h⟩ := h.read_inv
        change Ends (ite _ _ _) _ _ at he
        split at he
        · -- its own source yields the credential
          next heq =>
          obtain ⟨rfl, -⟩ := ends_done.mp he
          have hs'' := (hs.trans hs').trans h.nil_inv
          refine ⟨hs''.cache, ?_⟩
          rw [hs''.sources, ← hcurrent, ← hexisting]
          cases existing with
          | error e => cases heq
          | ok c => exact congrArg Except.ok (Option.some.inj heq)
        · -- it is given the caller's
          cases he with
          | later he =>
            obtain ⟨x, hcache, hsource, h⟩ := h.replaceSource_inv
            cases he with
            | later he =>
              obtain ⟨y, hs'', h⟩ := h.ping_inv
              obtain ⟨rfl, -⟩ := ends_done.mp he
              have hs₃ := hs''.trans h.nil_inv
              exact ⟨hs₃.cache.trans (hcache.trans (hs.trans hs').cache),
                by rw [hs₃.sources, hsource, hc]⟩

theorem source_of_settle {hold : Hold} {r : Except CredentialError SessionId}
    (hc : reads source = .ok credential) (he : Ends (settle source credential hold) told r)
    (hnew : hold.known = false → (w.sessions hold.session).session.source = source)
    (h : Undisturbed settings reads w told w') :
    r = .ok hold.session ∧ w'.cache = w.cache ∧
      reads (w'.sessions hold.session).session.source = .ok credential := by
  refine ⟨ends_settle he, ?_⟩
  unfold settle at he
  obtain ⟨_, t, t', ht, hd, rfl⟩ := ends_bind.mp he
  obtain ⟨rfl, -⟩ := ends_done.mp hd
  rw [List.append_nil] at h
  split at ht
  · exact source_of_repair hc ht h
  · next hk =>
    obtain ⟨rfl, -⟩ := ends_done.mp ht
    have hs := h.nil_inv
    exact ⟨hs.cache, by rw [hs.sources, hnew (by simpa using hk), hc]⟩

/-! ## Every lookup comes to its end -/

omit [DecidableEq S] in
theorem exists_answer (reads : S → Except CredentialError Credential) (w : Common S)
    (q : Cache.Question S) :
    ∃ a w', Answers settings w (lift ⟨q, a⟩) w' ∧ AsRead reads ⟨q, a⟩ := by
  cases q with
  | read source => exact ⟨reads source, _, .read, rfl⟩
  | attach label endpoint source =>
    cases ha : w.cache.attach label w.bound with
    | mk hold cache =>
      cases hk : hold.known with
      | true => exact ⟨hold, _, .join ha hk, trivial⟩
      | false => exact ⟨hold, _, .opens 0 ha hk, trivial⟩
  | sourceOf session => exact ⟨_, _, .sourceOf, trivial⟩
  | replaceSource session source => exact ⟨(), _, .replaceSource .replaced, trivial⟩
  | ping session => exact ⟨(), w, .ping, trivial⟩

omit [DecidableEq S] in
theorem exists_ends {α : Type} {p : Program (Cache.Answer (S := S)) α} (h : p.Hears told)
    (reads : S → Except CredentialError Credential) (w : Common S) :
    ∃ more r w', Ends p (told ++ more) r ∧ Undisturbed settings reads w more w' := by
  induction h with
  | @later q next a told _ ih =>
    obtain ⟨more, r, w', he, hu⟩ := ih
    exact ⟨more, r, w', .later he, hu⟩
  | @start p =>
    induction p generalizing w with
    | done a => exact ⟨[], a, w, .now, .refl⟩
    | ask q next ih =>
      obtain ⟨a, u, ha, hr⟩ := exists_answer reads w q
      obtain ⟨more, r, w', he, hu⟩ := ih a u
      exact ⟨⟨q, a⟩ :: more, r, w', .later he, .told ha hr hu⟩

/-- A lookup whose source yields a credential gives out the session under that credential's label,
and its source yields this credential then. A lookup whose source fails does so with the same
failure, and all sources and counts are what they were. None gets stuck. -/
theorem source_of_lookUp (settings : SessionSettings)
    (reads : S → Except CredentialError Credential) (w : Common S) (endpoint : String) (source : S) :
    (∀ told u, (lookUp endpoint source).Hears told → Undisturbed settings reads w told u →
      ∃ more r w', Ends (lookUp endpoint source) (told ++ more) r ∧
        Undisturbed settings reads u more w') ∧
    ∀ told r w', Ends (lookUp endpoint source) told r → Undisturbed settings reads w told w' →
      match reads source with
      | .ok credential => ∃ session, r = .ok session ∧
          (∃ entry ∈ w'.cache.entries, entry.label = sessionLabel endpoint credential ∧
            entry.session = session) ∧
          reads (w'.sessions session).session.source = .ok credential
      | .error e => r = .error e ∧ SameHold w w' := by
  refine ⟨fun told u hh _ => exists_ends hh reads u, fun told r w' he h => ?_⟩
  rw [lookUp_eq] at he
  cases he with
  | @later _ _ answer told _ he =>
    obtain ⟨hanswer, u, hs, h₁⟩ := h.read_inv
    rw [← hanswer]
    cases answer with
    | error e =>
      obtain ⟨rfl, rfl⟩ := ends_done.mp he
      exact ⟨rfl, hs.trans h₁.nil_inv⟩
    | ok credential =>
      cases he with
      | @later _ _ hold told _ he =>
        obtain ⟨v, h₂, ⟨entry, hm, hl, hid⟩, hnew⟩ := h₁.attach_inv
        obtain ⟨rfl, hcache, hsource⟩ := source_of_settle hanswer.symm he hnew h₂
        exact ⟨hold.session, rfl, ⟨entry, hcache ▸ hm, hl, hid⟩, hsource⟩

/-! The source of a session fails, and another client comes with one that works. -/

def workingCredential : Credential := ⟨"key", "secret"⟩

def oneGone : Nat → Except CredentialError Credential
  | 0 => .error (.unavailable "gone")
  | _ + 1 => .ok workingCredential

def staleShare : Common Nat :=
  ⟨⟨[⟨sessionLabel "http://a" workingCredential, 0, 1⟩]⟩,
    fun _ => .start (.start .start "http://a" 0), 1, []⟩

def repairTold : List (Exchange (Cache.Answer (S := Nat))) :=
  [⟨.read 1, .ok workingCredential⟩,
    ⟨.attach (sessionLabel "http://a" workingCredential) "http://a" 1, ⟨0, true⟩⟩,
    ⟨.sourceOf 0, (0 : Nat)⟩, ⟨.read 0, .error (.unavailable "gone")⟩, ⟨.replaceSource 0 1, ()⟩,
    ⟨.ping 0, ()⟩]

theorem ends_repair : Ends (lookUp "http://a" 1) repairTold (.ok 0) := by
  rw [lookUp_eq]
  exact .later (.later (.later (.later (.later (.later .now)))))

theorem undisturbed_repair : ∃ w', Undisturbed .start oneGone staleShare repairTold w' := by
  have hfind : staleShare.cache.find? (sessionLabel "http://a" workingCredential) =
      some ⟨sessionLabel "http://a" workingCredential, 0, 1⟩ := by
    simp [staleShare, Cache.find?]
  exact ⟨_, .told .read rfl <| .told (.join (attach_known hfind) rfl) trivial <|
    .told .sourceOf trivial <| .told .read rfl <| .told (.replaceSource .replaced) trivial <|
    .told .ping trivial .refl⟩

theorem source_of_lookUp_stale : ∃ w', Undisturbed .start oneGone staleShare repairTold w' ∧
    Ends (lookUp "http://a" 1) repairTold (.ok 0) ∧
    oneGone (staleShare.sessions 0).session.source = .error (.unavailable "gone") ∧
    oneGone (w'.sessions 0).session.source = .ok workingCredential := by
  obtain ⟨w', h⟩ := undisturbed_repair
  obtain ⟨session, hr, -, hsource⟩ :=
    (source_of_lookUp .start oneGone staleShare "http://a" 1).2 _ _ w' ends_repair h
  obtain rfl : 0 = session := Except.ok.inj hr
  exact ⟨w', h, ends_repair, rfl, hsource⟩

end ClusterOperator.Provider.Tenancy
