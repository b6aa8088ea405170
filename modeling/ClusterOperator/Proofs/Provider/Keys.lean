import ClusterOperator.Proofs.Digest.Uuid
import ClusterOperator.Proofs.Provider.Calls
import ClusterOperator.Proofs.Provider.Codec

/-!
# What the keys of create requests tell apart

The body of a create request can be read back, so no two requests have one body, whatever
their texts hold. As far as identifiers made from names tell bodies apart, keys tell the
requests apart.
-/

namespace ClusterOperator.Provider

open Program

theorem utf8_inj {s t : String} (h : utf8 s = utf8 t) : s = t := by
  have hb : ∀ u : String, u.toByteArray = (utf8 u).toByteArray := by
    intro u
    rw [← String.ofList_toList (s := u), String.toByteArray_ofList]
    simp [utf8, List.utf8Encode]
  exact String.toByteArray_inj.mp (by rw [hb, hb, h])

namespace CreateRequest

theorem payload_inj {a b : CreateRequest} (h : a.payload = b.payload) : a = b := by
  have ha := (a.carries (by decide : Json.depthLimit ≠ 0)).readText
  have hb := (b.carries (by decide : Json.depthLimit ≠ 0)).readText
  unfold payload at h
  rw [h] at ha
  exact Except.ok.inj (ha.symm.trans hb)

theorem body_eq_iff {a b : CreateRequest} : utf8 a.payload = utf8 b.payload ↔ a = b := by
  constructor
  · intro h
    exact payload_inj (utf8_inj h)
  · rintro rfl
    rfl

end CreateRequest

namespace Client

theorem onWire_key (cl : Client) (token : String) {r : Request} {body : String}
    (h : r.body = some body) : (cl.onWire token r).body = some body ∧
      (cl.onWire token r).header? "idempotency-key" =
        some (Uuid.ofName .operator (utf8 body)).text := by
  refine ⟨h, ?_⟩
  simp only [Client.onWire, h, Option.map_some, Option.getD_some]
  rfl

theorem onWire_create (cl : Client) (token : String) (a : CreateRequest) :
    (cl.onWire token (createRequest a)).header? "idempotency-key" =
      some (idempotencyKey (utf8 a.payload)).text :=
  (onWire_key cl token rfl).2

theorem request_of_create {a : CreateRequest} {told : List (Exchange Answer)} {r : Request}
    (h : Asks (create a).run told (.send r)) : r = createRequest a := by
  rcases asks_create h with h | h
  · cases h
  · cases h
    rfl

/-- The requests are of any two clients, with any tokens, after any answers. -/
theorem keys_eq_iff (a b : CreateRequest) :
    (utf8 a.payload = utf8 b.payload ↔ a = b) ∧
      ((idempotencyKey (utf8 a.payload) = idempotencyKey (utf8 b.payload) →
          utf8 a.payload = utf8 b.payload) →
        ∀ {told heard : List (Exchange Answer)} {r q : Request} (c d : Client) (s t : String),
          Asks (create a).run told (.send r) → Asks (create b).run heard (.send q) →
          ((c.onWire s r).header? "idempotency-key" = (d.onWire t q).header? "idempotency-key" ↔
            a = b)) := by
  refine ⟨CreateRequest.body_eq_iff, fun hk told heard r q c d s t hr hq => ?_⟩
  obtain rfl := request_of_create hr
  obtain rfl := request_of_create hq
  rw [onWire_create, onWire_create]
  constructor
  · intro h
    exact CreateRequest.body_eq_iff.mp (hk (Uuid.text_inj (Option.some.inj h)))
  · rintro rfl
    rfl

namespace Sample

def client : Client := ⟨"https://api.example.com", "https://api.example.com", "operator", 0⟩

/-- The name goes on as if the team were given in it. -/
def longName : CreateRequest :=
  ⟨"a\",\"team_id\":\"t1", "t2", "hobby-2", 10, "aws", "us-east-1", 16, false⟩

/-- The team begins as if another were given before it. -/
def longTeam : CreateRequest :=
  ⟨"a", "t1\",\"team_id\":\"t2", "hobby-2", 10, "aws", "us-east-1", 16, false⟩

theorem asks_send_create (a : CreateRequest) :
    Asks (create a).run [⟨.check, LoginState.active⟩] (.send (createRequest a)) := .later .now

end Sample

/-- Without the escapes the two bodies would be the same. -/
theorem keys_eq_iff_quotes :
    utf8 Sample.longName.payload ≠ utf8 Sample.longTeam.payload ∧
      (Sample.client.onWire "" (createRequest Sample.longName)).header? "idempotency-key" ≠
        (Sample.client.onWire "" (createRequest Sample.longTeam)).header? "idempotency-key" := by
  have hne : Sample.longName ≠ Sample.longTeam := by decide
  have hk : idempotencyKey (utf8 Sample.longName.payload) ≠
      idempotencyKey (utf8 Sample.longTeam.payload) := by
    decide +kernel
  obtain ⟨hb, hh⟩ := keys_eq_iff Sample.longName Sample.longTeam
  have he := hh (fun h => absurd h hk) Sample.client Sample.client "" ""
    (Sample.asks_send_create Sample.longName) (Sample.asks_send_create Sample.longTeam)
  exact ⟨fun h => hne (hb.mp h), fun h => hne (he.mp h)⟩

end Client

end ClusterOperator.Provider
