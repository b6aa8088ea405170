import ClusterOperator.Proofs.Program.Transcript
import ClusterOperator.Reconcile.TeamPass

/-!
# What a pass over a team asks

A pass loads the object, gets a listing, looks at the clock and writes a status, if
the report differs from the status that it loaded. What it asks next shows what it
was told.
-/

namespace ClusterOperator.Reconcile.TeamPass

open Resource (Team Metadata)
open Provider (TeamList)
open Program

variable {t : Team} {ns : String} {listing : Except Provider.Error TeamList} {now : Timestamp}
  {told : List (Exchange Answer)} {q : Question}

/-! ## Listings -/

/-- Where a listing comes from: the directory, unless the secret's name is blank. -/
inductive Lists (t : Team) (ns : String) :
    Except Provider.Error TeamList → List (Exchange Answer) → Prop
  | blank : (Text.trim t.spec.credentialsRef.name).isEmpty →
    Lists t ns (.error .credentialMissing) []
  | asked {r : Except Provider.Error TeamList} :
    (Text.trim t.spec.credentialsRef.name).isEmpty = false → Lists t ns r
      [⟨.listTeams (t.secretNamespace.getD ns) (Text.trim t.spec.credentialsRef.name), r⟩]

theorem asks_list (h : Asks (list t ns).run told q) :
    told = [] ∧ ∃ ns' secret, q = .listTeams ns' secret := by
  unfold list at h
  dsimp only at h
  split at h
  · exact absurd h asks_done
  · rcases (asks_lift_bind (g := pure)).mp h with h₁ | ⟨_, _, _, h₁⟩
    · exact ⟨h₁.1, _, _, h₁.2⟩
    · exact absurd h₁ asks_done

theorem ends_list (h : Ends (list t ns).run told (.ok listing)) : Lists t ns listing told := by
  unfold list at h
  dsimp only at h
  split at h
  · next hb =>
    obtain ⟨rfl, he⟩ := ends_done.mp h
    cases he
    exact .blank hb
  · next hb =>
    obtain ⟨r, u, rfl, h₁⟩ := (ends_lift_bind (g := pure)).mp h
    obtain ⟨rfl, he⟩ := ends_done.mp h₁
    cases he
    exact .asked (Bool.eq_false_iff.mpr hb)

/-! ## Whole passes -/

def reported (t : Team) (listing : Except Provider.Error TeamList) (now : Timestamp) : Team :=
  { t with status := some (report t listing now) }

/-- What a pass asks, after what it was told. -/
inductive Poses (ns : String) : List (Exchange Answer) → Question → Prop
  | load {key : Resource.ObjectKey} : Poses ns [] (.load key)
  | list {key : Resource.ObjectKey} {t : Team} {ns' secret : String} :
    Poses ns [⟨.load key, .ok t⟩] (.listTeams ns' secret)
  | now {key : Resource.ObjectKey} {t : Team} {listing : Except Provider.Error TeamList}
    {mid : List (Exchange Answer)} : Lists t ns listing mid →
    Poses ns (⟨.load key, .ok t⟩ :: mid) .now
  | write {key : Resource.ObjectKey} {t : Team} {listing : Except Provider.Error TeamList}
    {now : Timestamp} {mid : List (Exchange Answer)} : Lists t ns listing mid →
    t.status ≠ some (report t listing now) →
    Poses ns (⟨.load key, .ok t⟩ :: (mid ++ [⟨.now, now⟩])) (.replaceStatus (reported t listing now))
  | note {told : List (Exchange Answer)} {n : Note} : Poses ns told (.note n)

theorem asks_writeStatus {status : Team.Status} (h : Asks (writeStatus t status).run told q) :
    told = [] ∧ q = .replaceStatus { t with status := some status } ∧ t.status ≠ some status := by
  unfold writeStatus at h
  split at h
  · exact absurd h asks_done
  · next hne =>
    rcases asks_lift_bind.mp h with ⟨rfl, rfl⟩ | ⟨r, _, _, h₁⟩
    · exact ⟨rfl, rfl, hne⟩
    · cases r <;> exact absurd h₁ asks_done

theorem asks_body {key : Resource.ObjectKey} (h : Asks (body key).run told q) :
    Poses key.ns told q := by
  rcases asks_lift_bind.mp h with ⟨rfl, rfl⟩ | ⟨r, u, rfl, h₁⟩
  · exact .load
  cases r with
  | error e => cases e <;> exact absurd h₁ asks_done
  | ok t =>
    rcases asks_try_bind.mp h₁ with h₂ | ⟨listing, mid, v, hl, h₂, rfl⟩
    · obtain ⟨rfl, _, _, rfl⟩ := asks_list h₂
      exact .list
    have hm := ends_list hl
    rcases asks_lift_bind.mp h₂ with ⟨rfl, rfl⟩ | ⟨now, u, rfl, h₃⟩
    · rw [List.append_nil]
      exact .now hm
    rcases asks_try_bind.mp h₃ with h₄ | ⟨_, _, _, _, h₄, _⟩
    · obtain ⟨rfl, rfl, hne⟩ := asks_writeStatus h₄
      exact .write hm hne
    · cases listing <;> exact absurd h₄ asks_done

theorem asks_settle {key : Resource.ObjectKey} {r : Except Error Action}
    (h : Asks (settle key r) told q) : ∃ n, q = .note n := by
  unfold settle at h
  split at h
  · rcases asks_bind.mp h with h₁ | ⟨_, _, _, _, h₁, _⟩
    · exact ⟨_, (asks_query.mp h₁).2⟩
    · exact absurd h₁ asks_done
  · split at h
    · exact absurd h asks_done
    · rcases asks_bind.mp h with h₁ | ⟨_, _, _, _, h₁, _⟩
      · exact ⟨_, (asks_query.mp h₁).2⟩
      · exact absurd h₁ asks_done

theorem asks_reconcile {event : Metadata} (h : Asks (reconcile event) told q) :
    ∃ ns, Poses ns told q := by
  unfold reconcile at h
  split at h
  · exact absurd h asks_done
  · next ns _ =>
    rcases asks_bind.mp h with h₁ | ⟨_, _, _, _, h₁, rfl⟩
    · exact ⟨ns, asks_body h₁⟩
    · obtain ⟨n, rfl⟩ := asks_settle h₁
      exact ⟨ns, .note⟩

end ClusterOperator.Reconcile.TeamPass
