import ClusterOperator.Proofs.Json.Record
import ClusterOperator.Resource.Cluster
import ClusterOperator.Resource.Team

/-!
# Specs and statuses are read as what was written

Some fields are left out when they have no value or are empty, and what is left out is read
as just that.
-/

namespace ClusterOperator.Resource

open Json

variable {depth : Nat}

theorem carries_text? (s : String) : Carries (readOption readString) (.string s) (some s) :=
  (carries_string s).some (by simp)

theorem carries_int64? (i : Int64) : Carries (readOption readInt64) (.int i.toInt) (some i) :=
  (carries_int64 i).some (by simp [Json.int])

/-! ## Clusters -/

namespace Cluster

theorem Spec.carries (s : Spec) (hd : depth ≠ 0) : Carries (read depth) s.toJson s :=
  (Draft.Fills.make Spec.mk).required (by simp) (carries_string s.name)
    |>.option (by simp) carries_text?
    |>.required (by simp) (carries_string s.plan)
    |>.required (by simp) (carries_int32 s.storage)
    |>.required (by simp) (carries_string s.provider)
    |>.required (by simp) (carries_string s.region)
    |>.required (by simp) (carries_int32 s.pgMajorVersion)
    |>.optional (by simp) (carries_bool s.enableHA)
    |>.carries hd (by simp)

theorem Summary.carries (m : Summary) (hd : depth ≠ 0) : Carries (read depth) m.toJson m :=
  (Draft.Fills.make Summary.mk).optional (by simp) (carries_string m.id)
    |>.optional (by simp) (carries_string m.name)
    |>.optional (by simp) (carries_string m.teamId)
    |>.optional (by simp) (carries_int32 m.cpu)
    |>.optional (by simp) (carries_int32 m.memory)
    |>.optional (by simp) (carries_int32 m.storage)
    |>.optional (by simp) (carries_int32 m.majorVersion)
    |>.optional (by simp) (carries_bool m.haEnabled)
    |>.option (by simp) carries_text?
    |>.option (by simp) carries_text?
    |>.optional (by simp) (carries_string m.providerId)
    |>.optional (by simp) (carries_string m.regionId)
    |>.carries hd (by simp)

theorem Connection.carries (c : Connection) (hd : depth ≠ 0) : Carries (read depth) c.toJson c :=
  (Draft.Fills.make Connection.mk).optional (by simp) (carries_string c.connectString)
    |>.optional (by simp) (carries_string c.parentDbRole)
    |>.optional (by simp) (carries_string c.databaseName)
    |>.carries hd (by simp)

theorem Status.carries (s : Status) (hd : 1 < depth) : Carries (read depth) s.toJson s :=
  (Draft.Fills.make Status.mk).optional (by simp) (carries_string s.phase)
    |>.option (by simp) carries_text?
    |>.optional (by simp) (s.cluster.carries (by omega : depth - 1 ≠ 0))
    |>.optional (by simp) (s.connection.carries (by omega : depth - 1 ≠ 0))
    |>.carries (by omega) (by simp)

end Cluster

/-! ## Teams -/

namespace Team

theorem SecretReference.carries (r : SecretReference) (hd : depth ≠ 0) :
    Carries (read depth) r.toJson r :=
  (Draft.Fills.make SecretReference.mk).required (by simp) (carries_string r.name)
    |>.option (by simp) carries_text?
    |>.carries hd (by simp)

theorem Spec.carries (s : Spec) (hd : 1 < depth) : Carries (read depth) s.toJson s :=
  (Draft.Fills.make Spec.mk).required (by simp)
      (s.credentialsRef.carries (by omega : depth - 1 ≠ 0))
    |>.carries (by omega) (by simp)

theorem Entry.carries (e : Entry) (hd : depth ≠ 0) : Carries (read depth) e.toJson e :=
  (Draft.Fills.make Entry.mk).required (by simp) (carries_string e.id)
    |>.unlessEmpty (by simp) (fun he => (String.isEmpty_iff.mp he).symm) (carries_string e.name)
    |>.carries hd (by simp)

theorem Condition.carries (c : Condition) (hd : depth ≠ 0) : Carries (read depth) c.toJson c :=
  (Draft.Fills.make Condition.mk).required (by simp) (carries_string c.kind)
    |>.required (by simp) (carries_string c.status)
    |>.required (by simp) (carries_string c.reason)
    |>.required (by simp) (carries_string c.message)
    |>.required (by simp) (carries_string c.lastTransitionTime)
    |>.option (by simp) carries_int64?
    |>.carries hd (by simp)

theorem Status.carries (s : Status) (hd : 2 < depth) : Carries (read depth) s.toJson s :=
  (Draft.Fills.make Status.mk).unlessEmpty (by simp)
      (fun he => (List.isEmpty_iff.mp he).symm)
      (carries_list (by omega) fun c _ => c.carries (by omega : depth - 2 ≠ 0))
    |>.unlessEmpty (by simp) (fun he => (List.isEmpty_iff.mp he).symm)
      (carries_list (by omega) fun e _ => e.carries (by omega : depth - 2 ≠ 0))
    |>.carries (by omega) (by simp)

end Team

end ClusterOperator.Resource
