import ClusterOperator.Kubernetes.Api
import ClusterOperator.Provider.Client

/-!
# Clients and sessions against scripted endpoints

A network answers requests by rules, and its clock moves only when it is told
to. Everything that is due at an instant happens before the clock moves on, one
task after another.
-/

namespace ClusterOperator.Simulation

open Provider (Cache Client ClientSettings Credential CredentialError Instant Session SessionId
  SessionSettings Stage TimerKind TokenAnswer)

/-! ## Rules -/

/-- How a request is answered. -/
inductive Reply where
  | response (status : UInt16) (body : String)
  /-- The connection closes without an answer. -/
  | dropped
  /-- The body ends before its announced end. -/
  | truncated (status : UInt16)
  deriving DecidableEq, Repr

def Reply.result : Reply → Except String Http.Response
  | .response status body => .ok ⟨status, .ok body⟩
  | .dropped => .error "connection closed before message completed"
  | .truncated status => .ok ⟨status, .error "end of file before message length reached"⟩

structure Rule where
  method : String
  url : String
  replies : List Reply

def Rule.matches (r : Rule) (method url : String) : Bool := r.method = method && r.url = url

abbrev Rules := List Rule

namespace Rules

/-- A later rule for the same requests takes the place of an earlier one. -/
def set (rules : Rules) (rule : Rule) : Rules :=
  rule :: rules.filter fun r => !r.matches rule.method rule.url

/-- Each reply is given once, the last one from then on. -/
def useUp : List Reply → List Reply
  | _ :: next :: rest => next :: rest
  | replies => replies

def answer (rules : Rules) (method url : String) : Reply × Rules :=
  match rules.find? (·.matches method url) with
  | some ⟨_, _, reply :: rest⟩ =>
    (reply, rules.map fun r =>
      if r.matches method url then { r with replies := useUp (reply :: rest) } else r)
  | _ => (.response 404 "", rules)

end Rules

/-! ## The network -/

abbrev SourceId := Nat

/-- Where credentials come from. -/
inductive Source where
  | fixed (answer : Except CredentialError Credential)
  | secret (source : Kubernetes.SecretSource)

structure Network where
  settings : SessionSettings
  /-- The place of every delay in its range. -/
  draw : Float
  /-- Whether the provider's hosts are there to be connected to. -/
  reachable : Bool
  now : Instant
  provider : Rules
  cluster : Rules
  /-- Requests that were answered, the latest first. -/
  sent : List Http.Request
  asked : List Kubernetes.Request
  sources : List (SourceId × Source)
  /-- Sources that have a name. -/
  named : List (String × SourceId)
  sessions : List (SessionId × Session SourceId)
  cache : Cache
  clients : List (String × Client)
  /-- Sessions that are kept under a name. -/
  holds : List (String × SessionId)
  nextId : Nat

/-- Puts an entry in the place of the one with its key, or at the end. -/
def put {κ α : Type} [DecidableEq κ] (key : κ) (value : α) : List (κ × α) → List (κ × α)
  | [] => [(key, value)]
  | (k, v) :: rest => if k = key then (key, value) :: rest else (k, v) :: put key value rest

namespace Network

def start (settings : SessionSettings) (draw : Float) (reachable : Bool) : Network :=
  ⟨settings, draw, reachable, 0, [], [], [], [], [], [], [], .empty, [], [], 0⟩

/-! ## Requests -/

/-- A URL as it is requested: whole, and without its fragment. -/
def target? (url : String) : Option String :=
  match Url.parse url with
  | .error _ => none
  | .ok u =>
    match u.authority.bind (·.host) with
    | some _ => some { u with fragment := none }.text
    | none => none

/-- A request that cannot be written down is never sent. -/
def request (w : Network) (r : Http.Request) : Except String Http.Response × Network :=
  if !w.reachable then (.error "error sending request", w)
  else
    match target? r.url with
    | none => (.error "builder error", w)
    | some url =>
      if r.headers.all fun (_, value) => Http.isHeaderValue value then
        let (reply, provider) := w.provider.answer r.method.text url
        (reply.result, { w with provider := provider, sent := { r with url := url } :: w.sent })
      else (.error "builder error", w)

def kubernetes (r : Kubernetes.Request) (w : Network) :
    Except Kubernetes.Failure Http.Response × Network :=
  let (reply, cluster) := w.cluster.answer r.method.text r.path
  (reply.result.mapError .other, { w with cluster := cluster, asked := r :: w.asked })

/-! ## Sources and sessions -/

def addSource (w : Network) (s : Source) : SourceId × Network :=
  (w.nextId, { w with sources := (w.nextId, s) :: w.sources, nextId := w.nextId + 1 })

/-- Changes the source of a name, or names a new one. -/
def setSource (w : Network) (name : String) (s : Source) : Network :=
  match w.named.lookup name with
  | some id => { w with sources := put id s w.sources }
  | none =>
    let (id, w) := w.addSource s
    { w with named := (name, id) :: w.named }

def read (w : Network) (source : SourceId) : Except CredentialError Credential × Network :=
  match w.sources.lookup source with
  | none => (.error (.unavailable "no such source"), w)
  | some (.fixed answer) => (answer, w)
  | some (.secret s) => s.credential.run kubernetes w

def loginAnswer (q : Stage.Question SourceId) (w : Network) : Stage.Answer q × Network :=
  match q with
  | .credential source => w.read source
  | .token endpoint credential =>
    let (r, w) := w.request (TokenAnswer.request endpoint w.settings.userAgent credential)
    (match r with
      | .ok response => .ofResponse response
      | .error _ => .failed, w)

/-- How far ahead a timer can be set. -/
def reach : Span := .ofSeconds (30 * 365 * 24 * 60 * 60)

/-- A timer that is set beyond the reach of the clock goes off at its end. -/
def withinReach (now : Instant) (s : Session SourceId) : Session SourceId :=
  let near (t : Provider.Timer) := { t with due := t.due.map (min (now + reach.nanos)) }
  { s with retry := near s.retry, renew := near s.renew, expire := near s.expire }

def setSession (w : Network) (id : SessionId) (s : Session SourceId) : Network :=
  { w with sessions := put id (withinReach w.now s) w.sessions }

def update (w : Network) (id : SessionId) (f : Session SourceId → Session SourceId) : Network :=
  match w.sessions.lookup id with
  | some s => w.setSession id (f s)
  | none => w

/-- Has a task work on a session to its end. -/
def work (w : Network) (id : SessionId) (stage : Stage SourceId) : Network :=
  match w.sessions.lookup id with
  | some s =>
    let (s, w) := (stage.complete w.settings w.now w.draw s).run loginAnswer w
    w.setSession id s
  | none => w

def ping (w : Network) (id : SessionId) : Network := w.work id .pinged

def insertSession (w : Network) (s : Session SourceId) : SessionId × Network :=
  (w.nextId, { w with sessions := (w.nextId, s) :: w.sessions, nextId := w.nextId + 1 })

def addSession (w : Network) (endpoint : String) (source : SourceId) : SessionId × Network :=
  w.insertSession (.start w.settings endpoint source)

/-- Keeps a session under a name. -/
def keep (w : Network) (name : String) (id : SessionId) : Network :=
  { w with holds := put name id w.holds }

def forget (w : Network) (name : String) : Network :=
  { w with holds := w.holds.filter (·.1 ≠ name) }

def state (w : Network) (id : SessionId) : Provider.LoginState :=
  (w.sessions.lookup id).elim .unstarted (·.state)

def isInactive (w : Network) (id : SessionId) : Bool := w.state id = Provider.LoginState.inactive

def release (w : Network) (id : SessionId) : Network :=
  { w with cache := w.cache.release id w.isInactive }

/-! ## Programs on the network -/

def cacheAnswer (q : Cache.Question SourceId) (w : Network) : Cache.Answer q × Network :=
  match q with
  | .read source => w.read source
  | .attach label endpoint source =>
    let (fresh, added) := w.insertSession (.opened w.settings w.now endpoint source)
    let (hold, cache) := w.cache.attach label fresh
    (hold, if hold.known then { w with cache := cache } else { added with cache := cache })
  | .sourceOf session => (((w.sessions.lookup session).map (·.source)).getD 0, w)
  | .replaceSource session source => ((), w.update session fun s => s.replaceSource source)
  | .ping session => ((), w.ping session)

def clientAnswer (c : Client) (q : Client.Question) (w : Network) : Client.Answer q × Network :=
  match q with
  | .check =>
    let w := w.ping c.session
    (w.state c.session, w)
  | .state => (w.state c.session, w)
  | .send r =>
    match w.sessions.lookup c.session with
    | none => (.error (.transport "no session"), w)
    | some s =>
      let (token, s) := s.use w.now
      let (result, w) := (w.setSession c.session s).request (c.onWire token r)
      (result.mapError .transport, w)

def call {α : Type} (w : Network) (c : Client) (p : Client.Call α) :
    Except Provider.Error α × Network :=
  p.run.run (clientAnswer c) w

def lookUp (w : Network) (endpoint : String) (source : SourceId) :
    Except CredentialError SessionId × Network :=
  (Cache.lookUp endpoint source).run cacheAnswer w

/-- Makes a client that is not kept under a name. -/
def makeClient (w : Network) (s : ClientSettings SourceId) : Except Provider.Error Client × Network :=
  s.build.run cacheAnswer w

/-- Lets go of a client. -/
def drop (w : Network) (name : String) : Network :=
  match w.clients.lookup name with
  | some c => { w with clients := w.clients.filter (·.1 ≠ name) }.release c.session
  | none => w

/-- Makes a client under a name, and then lets go of the one that had it. -/
def build (w : Network) (name : String) (s : ClientSettings SourceId) :
    Except Provider.Error Client × Network :=
  match w.makeClient s with
  | (.error e, w) => (.error e, w)
  | (.ok c, w) =>
    let w := w.drop name
    (.ok c, { w with clients := put name c w.clients }.keep name c.session)

/-- The teams that a secret's key pair gives access to, through a client that
lives as long as the call. -/
def listTeams (w : Network) (s : ClientSettings SourceId) :
    Except Provider.Error Provider.TeamList × Network :=
  match w.makeClient s with
  | (.error e, w) => (.error e, w)
  | (.ok c, w) =>
    let (r, w) := w.call c Client.teams
    (r, w.release c.session)

/-! ## Time -/

/-- A timer that is set, with its place in the order in which timers go off. -/
structure Alarm where
  due : Instant
  session : SessionId
  kind : TimerKind
  generation : Nat

namespace Alarm

def rank : TimerKind → Nat
  | .expire => 0
  | .renew => 1
  | .retry => 2

def before (a b : Alarm) : Bool :=
  a.due < b.due ||
    a.due = b.due &&
      (a.session < b.session || a.session = b.session && rank a.kind < rank b.kind)

def earlier (a : Alarm) (best : Option Alarm) : Option Alarm :=
  match best with
  | some b => if a.before b then some a else some b
  | none => some a

def ofTimer? (id : SessionId) (s : Session SourceId) (kind : TimerKind) : Option Alarm :=
  (s.timer kind).due.map fun due => ⟨due, id, kind, (s.timer kind).generation⟩

end Alarm

def alarms (w : Network) : List Alarm :=
  w.sessions.flatMap fun (id, s) =>
    [TimerKind.expire, .renew, .retry].filterMap (Alarm.ofTimer? id s)

/-- What goes off next, if anything does up to an instant. -/
def nextAlarm (w : Network) (limit : Instant) : Option Alarm :=
  (w.alarms.filter fun a => a.due ≤ limit).foldr Alarm.earlier none

/-- Forgets the sessions that nobody can reach. -/
def prune (w : Network) : Network :=
  let reached := w.cache.entries.map (·.session) ++ w.clients.map (·.2.session) ++ w.holds.map (·.2)
  { w with sessions := w.sessions.filter fun (id, _) => reached.contains id }

/-- A move of the clock, which goes from tick to tick. -/
structure Move where
  start : Instant
  tick : Nat
  limit : Instant

/-- When the clock has got past an instant. -/
def Move.after (m : Move) (due : Instant) : Instant :=
  if m.tick = 0 then m.limit
  else min m.limit (m.start + (due - m.start + m.tick - 1) / m.tick * m.tick)

def goOff (w : Network) (now : Instant) (a : Alarm) : Network :=
  { w with now := max w.now now }.update a.session (fun s => s.fire a.kind)
    |>.work a.session (.fired a.kind a.generation)

/-- Lets timers go off in their order, but not more than so many. -/
def settle (m : Move) : (most : Nat) → Network → Network
  | 0, w => w
  | most + 1, w =>
    match w.nextAlarm m.limit with
    | some a => settle m most (w.goOff (m.after a.due) a)
    | none => w

/-- More timers than go off in any one move of the clock. -/
def mostAlarms : Nat := 100000

/-- Moves the clock in ticks. What is due within one goes off at its end. -/
def advance (w : Network) (time tick : Span) : Network :=
  let m : Move := ⟨w.now, tick.nanos, w.now + time.nanos⟩
  { w.prune.settle m mostAlarms with now := m.limit }

end Network

end ClusterOperator.Simulation
