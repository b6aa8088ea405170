import ClusterOperator.Http
import ClusterOperator.Provider.Cache
import ClusterOperator.Provider.Session.Stage
import ClusterOperator.Text.Base64
import ClusterOperator.Url.Query

/-!
# Calls to the provider

Every call checks the shared login first, and sends nothing unless it is active.
A call is a program over these checks and over requests, which carry the
session's token.
-/

namespace ClusterOperator.Provider

/-- A client of the provider's API, bound to one session. -/
structure Client where
  apiUrl : String
  authUrl : String
  userAgent : String
  session : SessionId
  deriving DecidableEq, Repr

/-- What a client is made from. -/
structure ClientSettings (S : Type) where
  apiUrl : Option String
  /-- Where tokens are issued, if not at the API's URL. -/
  authUrl : Option String
  source : Option S
  /-- The version to report in place of the operator's. -/
  version : Option String

/-- A URL as it is given, trimmed and without slashes at its end. -/
def readAddress (raw : String) : Except Error String :=
  let address := Text.trim raw
  if address.isEmpty then .error .addressMissing
  else
    match Url.parse address with
    | .error e => .error (.addressInvalid (address ++ ": " ++ e.message))
    | .ok _ => .ok (Text.dropEnd '/' address)

namespace ClientSettings

variable {S : Type}

/-- The URLs of the API and of its logins. A blank one for logins counts as none. -/
def addresses (s : ClientSettings S) : Except Error (String × String) := do
  let api ← readAddress (s.apiUrl.getD "")
  match s.authUrl.bind Text.trimmed? with
  | some url => return (api, ← readAddress url)
  | none => return (api, api)

/-- A client that holds its session. -/
def build [DecidableEq S] (s : ClientSettings S) :
    Program (Cache.Answer (S := S)) (Except Error Client) :=
  match s.addresses, s.source with
  | .error e, _ => .done (.error e)
  | .ok _, none => .done (.error .credentialMissing)
  | .ok (api, auth), some source =>
    (Cache.lookUp auth source).bind fun r =>
      .done <|
        match r with
        | .error e => .error (.credentialUnread e)
        | .ok session =>
          .ok ⟨api, auth, agent (Text.trim (s.version.getD ClusterOperator.version)), session⟩

end ClientSettings

namespace Client

/-- A request, whose path goes on where the API's URL ends. -/
structure Request where
  method : Http.Method
  path : String
  query : List (String × String)
  body : Option String
  deriving DecidableEq, Repr

def Request.get (path : String) : Request := ⟨.get, path, [], none⟩

inductive Question where
  /-- Logs in if that is needed, and tells the state after it. -/
  | check
  /-- The state of the login as it is. -/
  | state
  | send (r : Request)

@[reducible] def Answer : Question → Type
  | .check => LoginState
  | .state => LoginState
  | .send _ => Except Error Http.Response

abbrev Call := ExceptT Error (Program Answer)

/-- Ends the call unless the login is active. -/
def check : Call Unit := do
  let state : LoginState ← ExceptT.lift (.query Question.check)
  ExceptT.mk (.done state.check)

def send (r : Request) : Call Http.Response := do
  check
  ExceptT.mk (.query (Question.send r))

/-- A body that got lost is a failure of the transport. -/
def readBody (r : Http.Response) : Except Error String := r.body.mapError .transport

/-- The provider's own explanation, if it can be read. -/
def explanation (r : Http.Response) : String :=
  let message : Option Message := do
    (Json.readText (Message.read Json.depthLimit) (← r.body.toOption)).toOption
  (message.map (·.message)).getD "unable to retrieve further error details"

def refusal (r : Http.Response) : Error :=
  match r.status.toNat with
  | 400 => .badRequest (explanation r)
  | 401 | 403 => .credentialRejected
  | 404 => .notFound
  | 409 => .conflict (explanation r)
  | _ => .unexpectedStatus r.status

/-- A record, which comes with status 200 only. -/
def decode {α : Type} (read : Nat → Json.Read α) (r : Http.Response) : Except Error α := do
  if r.status ≠ 200 then throw (refusal r)
  let body ← readBody r
  (Json.readText (read Json.depthLimit) body).mapError fun _ => .undecodable "unreadable payload"

def fetch {α : Type} (read : Nat → Json.Read α) (r : Request) : Call α := do
  let response ← send r
  ExceptT.mk (.done (decode read response))

def clustersPath : String := "/clusters"

def clusterPath (id : String) : String := clustersPath ++ "/" ++ id

/-! ## Calls -/

/-- What the answer to a create request means. A status that nobody knows counts
as accepted. -/
def created (r : Http.Response) : Except Error Unit :=
  match r.status.toNat with
  | 400 => .error (.badRequest (explanation r))
  | 409 => .error (.conflict (explanation r))
  | _ => .ok ()

def createRequest (r : CreateRequest) : Request := ⟨.post, clustersPath, [], some r.payload⟩

def create (r : CreateRequest) : Call Unit := do
  let response ← send (createRequest r)
  ExceptT.mk (.done (created response))

def teams : Call TeamList := fetch TeamList.read (.get "/teams")

def teamClusters (team : String) : Call ClusterList :=
  fetch ClusterList.read { Request.get clustersPath with query := [("team_id", team)] }

/-- The clusters of teams, team by team. -/
def clustersOf : List Team → Call (List ClusterDetail)
  | [] => return []
  | team :: rest => do
    let list ← teamClusters team.id
    return list.clusters ++ (← clustersOf rest)

/-- Every cluster that the login can see, in the provider's order. -/
def allClusters : Call (List ClusterDetail) := do
  clustersOf (← teams).teams

def detail (id : String) : Call ClusterDetail := fetch ClusterDetail.read (.get (clusterPath id))

/-- The detail of the first cluster of that name, as listings leave out its
state; an empty detail if there is none. -/
def byName (name : String) : Call ClusterDetail := do
  match (← allClusters).find? (·.name = name) with
  | some cluster => detail cluster.id
  | none => return .empty

/-- What the answer to a delete request means. -/
def deleted (r : Http.Response) : Except Error Unit :=
  if r.status = 200 ∨ r.status = 204 then .ok () else .error (refusal r)

def delete (id : String) : Call Unit := do
  let response ← send { Request.get (clusterPath id) with method := .delete }
  ExceptT.mk (.done (deleted response))

def role (id : String) : Call ConnectionRole :=
  fetch ConnectionRole.read (.get (clusterPath id ++ "/roles/postgres"))

def personalTeam : Call String := do
  match (← teams).teams.find? (·.isPersonal) with
  | some team => return team.id
  | none => throw .noPersonalTeam

/-! ## On the wire -/

/-- The headers of a request that has a body. -/
def bodyHeaders (body : String) : List (String × String) :=
  [("content-type", "application/json"), ("idempotency-key", (idempotencyKey (utf8 body)).text)]

/-- The request with a token of the session. -/
def onWire (c : Client) (token : String) (r : Request) : Http.Request where
  method := r.method
  url := Url.withQuery (c.apiUrl ++ r.path) r.query
  headers := [("authorization", "Bearer " ++ token), ("user-agent", c.userAgent)] ++
    (r.body.map bodyHeaders).getD []
  body := r.body

/-- For logs. -/
def describe {S : Type} (c : Client) (s : Session S) : String :=
  "Client \x7b api_url: " ++ Text.quoted c.apiUrl ++ ", session: " ++ s.describe ++ ", .. \x7d"

end Client

/-! ## Tokens -/

namespace TokenAnswer

/-- The request for a token. -/
def request (endpoint userAgent : String) (c : Credential) : Http.Request where
  method := .post
  url := endpoint ++ "/access-tokens"
  headers := [("authorization", "Basic " ++ Text.base64Encode (utf8 (c.key ++ ":" ++ c.secret))),
    ("user-agent", userAgent)]
  body := none

/-- Only a plain refusal tells of the credential. -/
def ofResponse (r : Http.Response) : TokenAnswer :=
  if r.status = 401 ∨ r.status = 403 then .refused
  else if !r.isSuccess then .failed
  else
    match r.body with
    | .error _ => .failed
    | .ok body =>
      match Json.readText (IssuedToken.read Json.depthLimit) body with
      | .ok token => .issued token
      | .error _ => .failed

end TokenAnswer

end ClusterOperator.Provider
