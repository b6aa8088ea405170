import ClusterOperator.Reconcile.Error
import ClusterOperator.Text.Space
import ClusterOperator.Url.Address
import ClusterOperator.Version

/-!
# Options of the operator

Options are taken from flags, else from variables of the environment, else from
defaults. A flag may be given once; arguments are looked at in their order, and
the first one that is wrong decides.
-/

namespace ClusterOperator

namespace Options

/-! ## Addresses to listen at -/

inductive IpAddress where
  | v4 (address : Nat)
  | v6 (groups : List Nat) (scope : Nat)
  deriving DecidableEq, Repr

structure SocketAddress where
  ip : IpAddress
  port : Nat
  deriving DecidableEq, Repr

/-- A number in base ten up to a limit. -/
def decimal? (limit : Nat) (cs : List Char) : Option Nat :=
  if cs.isEmpty || !cs.all Char.isDigit then none
  else
    let n := Text.ofDigits cs
    if n ≤ limit then some n else none

/-- Cuts at the last mark. -/
def cutAtLast (mark : Char) (cs : List Char) : Option (List Char × List Char) :=
  match cs.reverse.dropWhile (· ≠ mark) with
  | _ :: before => some (before.reverse, (cs.reverse.takeWhile (· ≠ mark)).reverse)
  | [] => none

def maxPort : Nat := 65535

/-- Four bytes with dots between them. -/
def ipv4? (cs : List Char) : Option Nat :=
  match (Url.splitOn '.' cs).mapM Url.Ipv6.byte? with
  | some [a, b, c, d] => some (((a * 256 + b) * 256 + c) * 256 + d)
  | _ => none

/-- Groups, and a scope after a percent sign. -/
def scoped? (cs : List Char) : Option IpAddress :=
  match cutAtLast '%' cs with
  | none => (Url.Ipv6.parse? cs).map (.v6 · 0)
  | some (groups, scope) => do
    let groups ← Url.Ipv6.parse? groups
    let scope ← decimal? (2 ^ 32 - 1) scope
    some (.v6 groups scope)

namespace SocketAddress

def ofText? (s : String) : Option SocketAddress := do
  let (host, port) ← cutAtLast ':' s.toList
  let port ← decimal? maxPort port
  match host with
  | '[' :: rest => do
    if rest.getLast? ≠ some ']' then none
    let ip ← scoped? rest.dropLast
    some ⟨ip, port⟩
  | host => do
    let address ← ipv4? host
    some ⟨.v4 address, port⟩

/-- Addresses that stand for one of the older kind are shown in its form. -/
def groupsText (groups : List Nat) : List Char :=
  match groups with
  | [0, 0, 0, 0, 0, 0xFFFF, a, b] => [':', ':', 'f', 'f', 'f', 'f', ':'] ++ Url.Ipv4.text (a * 65536 + b)
  | groups => Url.Ipv6.text groups

def text (a : SocketAddress) : String :=
  String.ofList <|
    (match a.ip with
      | .v4 address => Url.Ipv4.text address
      | .v6 groups scope =>
        '[' :: groupsText groups ++
          (if scope = 0 then [] else '%' :: (toString scope).toList) ++ [']']) ++
    ':' :: (toString a.port).toList

end SocketAddress

/-! ## Options and their names -/

inductive Name where
  | apiUrl
  | authUrl
  | watchIntervalSecs
  | credentialsNamespace
  | credentialsName
  | keyField
  | secretField
  | teamId
  | healthBindAddress
  | leaderElect
  | watchNamespace
  deriving DecidableEq, Repr

namespace Name

def all : List Name :=
  [.apiUrl, .authUrl, .watchIntervalSecs, .credentialsNamespace, .credentialsName, .keyField,
    .secretField, .teamId, .healthBindAddress, .leaderElect, .watchNamespace]

def flag : Name → String
  | .apiUrl => "api-url"
  | .authUrl => "auth-url"
  | .watchIntervalSecs => "watch-interval-secs"
  | .credentialsNamespace => "credentials-namespace"
  | .credentialsName => "credentials-name"
  | .keyField => "key-field"
  | .secretField => "secret-field"
  | .teamId => "team-id"
  | .healthBindAddress => "health-bind-address"
  | .leaderElect => "leader-elect"
  | .watchNamespace => "namespace"

def environmentName : Name → String
  | .apiUrl => "BRIDGE_API_URL"
  | .authUrl => "BRIDGE_AUTH_URL"
  | .watchIntervalSecs => "WATCH_INTERVAL_SECS"
  | .credentialsNamespace => "API_CRED_NS"
  | .credentialsName => "API_CRED_NAME"
  | .keyField => "API_KEY_FIELD"
  | .secretField => "API_SECRET_FIELD"
  | .teamId => "BRIDGE_TEAM_ID"
  | .healthBindAddress => "HEALTH_BIND_ADDRESS"
  | .leaderElect => "LEADER_ELECT"
  | .watchNamespace => "WATCH_NAMESPACE"

end Name

end Options

structure Options where
  apiUrl : String
  /-- Where tokens are issued, if that is not where the API is. -/
  authUrl : Option String
  watchIntervalSecs : UInt64
  credentialsNamespace : String
  credentialsName : String
  keyField : String
  secretField : String
  teamId : Option String
  healthBindAddress : Options.SocketAddress
  leaderElect : Bool
  /-- The only namespace to watch, if not all are. -/
  watchNamespace : Option String

namespace Options

def defaults : Options where
  apiUrl := "https://api.crunchybridge.com"
  authUrl := none
  watchIntervalSecs := 10
  credentialsNamespace := "default"
  credentialsName := "crunchybridge_api_key"
  keyField := "api_key"
  secretField := "api_secret"
  teamId := none
  healthBindAddress := ⟨.v4 0, 8080⟩
  leaderElect := false
  watchNamespace := none

def watchInterval (o : Options) : Span := .ofSeconds o.watchIntervalSecs.toNat

/-- Why arguments yield no options. -/
inductive Stop where
  | unknownArgument
  | invalidValue
  | valueValidation
  | argumentConflict
  | tooManyValues
  | displayHelp
  | displayVersion
  deriving DecidableEq, Repr

/-- The first line of what is said then. -/
def Stop.message : Stop → String
  | .unknownArgument => "error: unexpected argument found"
  | .invalidValue => "error: one of the values isn't valid for an argument"
  | .valueValidation => "error: invalid value for one of the arguments"
  | .argumentConflict =>
    "error: an argument cannot be used with one or more of the other specified arguments"
  | .tooManyValues => "error: unexpected value for an argument found"
  | .displayHelp => "Kubernetes operator for Crunchy Bridge PostgreSQL clusters"
  | .displayVersion => "bridge-operator " ++ version

/-- Whether what was asked for was to be told something. -/
def Stop.isRequested : Stop → Bool
  | .displayHelp | .displayVersion => true
  | _ => false

/-- A number of seconds, perhaps with a plus. -/
def seconds? (s : String) : Option UInt64 :=
  let digits :=
    match s.toList with
    | '+' :: rest => rest
    | cs => cs
  (decimal? (2 ^ 64 - 1) digits).map UInt64.ofNat

/-- Sets one option from its text. -/
def assign (o : Options) (name : Name) (value : String) : Except Stop Options :=
  match name with
  | .apiUrl => .ok { o with apiUrl := value }
  | .authUrl => .ok { o with authUrl := some value }
  | .watchIntervalSecs =>
    match seconds? value with
    | some n => .ok { o with watchIntervalSecs := n }
    | none => .error .valueValidation
  | .credentialsNamespace => .ok { o with credentialsNamespace := value }
  | .credentialsName => .ok { o with credentialsName := value }
  | .keyField => .ok { o with keyField := value }
  | .secretField => .ok { o with secretField := value }
  | .teamId => .ok { o with teamId := some value }
  | .healthBindAddress =>
    match SocketAddress.ofText? value with
    | some a => .ok { o with healthBindAddress := a }
    | none => .error .valueValidation
  | .leaderElect =>
    if value = "true" then .ok { o with leaderElect := true }
    else if value = "false" then .ok { o with leaderElect := false }
    else .error .invalidValue
  | .watchNamespace => .ok { o with watchNamespace := some value }

/-! ## Arguments -/

/-- Options in the making. -/
structure Draft where
  options : Options
  given : List Name
  /-- An option that was named, with its value if that has come. -/
  pending : Option (Name × Option String)
  /-- Whether `--` has come, after which nothing is a flag. -/
  trailing : Bool

namespace Draft

def start : Draft := ⟨defaults, [], none, false⟩

/-- Gives an option its value, unless it has one from before. -/
def give (d : Draft) (name : Name) (value : String) : Except Stop Draft :=
  if d.given.contains name then .error .argumentConflict
  else
    match d.options.assign name value with
    | .ok options => .ok { d with options := options, given := name :: d.given }
    | .error e => .error e

/-- Settles the option that was named last. -/
def resolve (d : Draft) : Except Stop Draft :=
  match d.pending with
  | none => .ok d
  | some (_, none) => .error .invalidValue
  | some (name, some value) => { d with pending := none }.give name value

/-- A long flag with the value after its equals sign. -/
def takeLong (d : Draft) (flag : String) (value : Option String) : Except Stop Draft :=
  let bare (f : Draft → Except Stop Draft) : Except Stop Draft :=
    if value.isSome then .error .tooManyValues else d.resolve.bind f
  if flag = "help" then bare fun _ => .error .displayHelp
  else if flag = "version" then bare fun _ => .error .displayVersion
  else
    match Name.all.find? (·.flag = flag) with
    | none => .error .unknownArgument
    | some .leaderElect => bare (·.give .leaderElect "true")
    | some name =>
      d.resolve.bind fun d =>
        match value with
        | some v => d.give name v
        | none => .ok { d with pending := some (name, none) }

def takeShort (d : Draft) (letter : Char) : Except Stop Draft :=
  if letter = 'h' then d.resolve.bind fun _ => .error .displayHelp
  else if letter = 'V' then d.resolve.bind fun _ => .error .displayVersion
  else .error .unknownArgument

/-- An argument that is no flag: the value of the option before it. -/
def takeValue (d : Draft) (value : String) : Except Stop Draft :=
  match d.pending with
  | some (name, none) => .ok { d with pending := some (name, some value) }
  | _ => .error .unknownArgument

def take (d : Draft) (argument : String) : Except Stop Draft :=
  if d.trailing then .error .unknownArgument
  else
    match argument.toList with
    | ['-', '-'] => .ok { d with trailing := true }
    | '-' :: '-' :: rest =>
      let flag := String.ofList (rest.takeWhile (· ≠ '='))
      match rest.dropWhile (· ≠ '=') with
      | _ :: value => d.takeLong flag (some (String.ofList value))
      | [] => d.takeLong flag none
    | '-' :: letter :: _ => d.takeShort letter
    | _ => d.takeValue argument

/-- Takes an option from the environment, unless a flag gave it. -/
def takeVariable (environment : List (String × String)) (d : Draft) (name : Name) :
    Except Stop Draft :=
  if d.given.contains name then .ok d
  else
    match environment.lookup name.environmentName with
    | some value => d.give name value
    | none => .ok d

end Draft

/-- The options of the arguments and the environment. -/
def ofArguments (arguments : List String) (environment : List (String × String)) :
    Except Stop Options := do
  let d ← arguments.foldlM Draft.take .start
  let d ← d.resolve
  let d ← Name.all.foldlM (Draft.takeVariable environment) d
  return d.options

/-- Refuses options with which every pass would fail. -/
def validate (o : Options) : Except Reconcile.Error Unit :=
  if Text.isBlank o.apiUrl then .error (.invalidSetting "API URL must not be empty")
  else if o.watchIntervalSecs = 0 then
    .error (.invalidSetting "watch interval must be at least one second")
  else if o.keyField.isEmpty || o.secretField.isEmpty then
    .error (.invalidSetting "credential field names must not be empty")
  else .ok ()

end Options

end ClusterOperator
