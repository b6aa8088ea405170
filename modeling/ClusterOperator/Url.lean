import ClusterOperator.Url.Host

/-!
# URLs

Reading and writing absolute URLs after the URL standard. A URL is cut into its
parts from the outside: fragment, query, scheme, authority, path.
-/

namespace ClusterOperator

namespace Url

/-- The part between `//` and the path. -/
structure Authority where
  user : List Char
  password : List Char
  host : Option Host
  port : Option Nat
  deriving DecidableEq, Repr

inductive Path where
  /-- A path without hierarchy, such as an address of mail. -/
  | opaqueText (text : List Char)
  /-- Segments, each led by a slash. -/
  | segments (names : List (List Char))
  deriving DecidableEq, Repr

end Url

structure Url where
  scheme : List Char
  authority : Option Url.Authority
  path : Url.Path
  query : Option (List Char)
  fragment : Option (List Char)
  deriving DecidableEq, Repr

namespace Url

/-! ## Schemes -/

/-- Schemes of the internet, with the ports that go without saying. -/
def defaultPort? (scheme : List Char) : Option Nat :=
  if scheme = ['h', 't', 't', 'p'] ∨ scheme = ['w', 's'] then some 80
  else if scheme = ['h', 't', 't', 'p', 's'] ∨ scheme = ['w', 's', 's'] then some 443
  else if scheme = ['f', 't', 'p'] then some 21
  else none

inductive Kind where
  /-- The host is a domain name, and a backslash counts as a slash. -/
  | internet
  | file
  | other
  deriving DecidableEq, Repr

def Kind.ofScheme (scheme : List Char) : Kind :=
  if scheme = ['f', 'i', 'l', 'e'] then .file
  else if (defaultPort? scheme).isSome then .internet
  else .other

def Kind.isSpecial (k : Kind) : Bool := k ≠ .other

def kind (u : Url) : Kind := .ofScheme u.scheme

/-! ## Writing -/

def Authority.text (a : Authority) : List Char :=
  (if a.user.isEmpty && a.password.isEmpty then []
    else a.user ++ (if a.password.isEmpty then [] else ':' :: a.password) ++ ['@']) ++
  (match a.host with
    | some host => host.text
    | none => []) ++
  match a.port with
  | some port => ':' :: (toString port).toList
  | none => []

def Path.text : Path → List Char
  | .opaqueText text => text
  | .segments names => names.flatMap ('/' :: ·)

/-- Without an authority a path must not begin with two slashes. -/
def pathPrefix (u : Url) : List Char :=
  match u.authority, u.path with
  | none, .segments ([] :: _ :: _) => ['/', '.']
  | _, _ => []

def toText (u : Url) : List Char :=
  u.scheme ++ ':' ::
    (match u.authority with
      | some a => '/' :: '/' :: a.text
      | none => u.pathPrefix) ++
    u.path.text ++
    (match u.query with
      | some q => '?' :: q
      | none => []) ++
    match u.fragment with
    | some f => '#' :: f
    | none => []

def text (u : Url) : String := String.ofList u.toText

/-! ## Reading -/

/-- Blanks and control characters at the ends do not count, nor do tabs and
line ends anywhere. -/
def clean (cs : List Char) : List Char :=
  let blank (c : Char) : Bool := c.toNat ≤ 0x20
  (((cs.dropWhile blank).reverse.dropWhile blank).reverse).filter fun c =>
    c ≠ '\t' && c ≠ '\n' && c ≠ '\r'

/-- Cuts at the first mark. -/
def cutAt (mark : Char) (cs : List Char) : List Char × Option (List Char) :=
  match cs.dropWhile (· ≠ mark) with
  | _ :: after => (cs.takeWhile (· ≠ mark), some after)
  | [] => (cs, none)

def isSchemeChar (c : Char) : Bool := c.isAlphanum || c = '+' || c = '-' || c = '.'

/-- The scheme in small letters, and what follows its colon. -/
def takeScheme (cs : List Char) : Option (List Char × List Char) :=
  match cs with
  | c :: _ =>
    if c.isAlpha then
      match cutAt ':' cs with
      | (scheme, some rest) =>
        if scheme.all isSchemeChar then some (scheme.map Char.toLower, rest) else none
      | (_, none) => none
    else none
  | [] => none

def isSlash (k : Kind) (c : Char) : Bool := c = '/' || (k.isSpecial && c = '\\')

/-- A segment that stays where it is. -/
def isDot (s : List Char) : Bool :=
  let s := s.map Char.toLower
  s = ['.'] || s = ['%', '2', 'e']

/-- A segment that goes back one step. -/
def isDoubleDot (s : List Char) : Bool :=
  let s := s.map Char.toLower
  s = ['.', '.'] || s = ['.', '%', '2', 'e'] || s = ['%', '2', 'e', '.'] ||
    s = ['%', '2', 'e', '%', '2', 'e']

/-- Going back does not leave a drive, even with a backslash after it. -/
def isDrive : List Char → Bool
  | letter :: mark :: rest =>
    letter.isAlpha && (mark = ':' || mark = '|') && rest.head?.all (· = '\\')
  | _ => false

/-- Cuts a path into segments at its slashes. -/
def splitSegments (k : Kind) : List Char → List (List Char)
  | [] => [[]]
  | c :: cs =>
    if isSlash k c then [] :: splitSegments k cs
    else
      match splitSegments k cs with
      | part :: parts => (c :: part) :: parts
      | [] => [[c]]

/-- Leaves the segment that was entered last. -/
def goBack : List (List Char) → List (List Char)
  | [] => []
  | last :: before => if isDrive last then last :: before else before

/-- Follows segments from a place, given by the segments back to the root. -/
def resolve (place : List (List Char)) : List (List Char) → List (List Char)
  | [] => place
  | [last] =>
    if isDoubleDot last then [] :: goBack place
    else if isDot last then [] :: place
    else last :: place
  | part :: parts =>
    if isDoubleDot part then resolve (goBack place) parts
    else if isDot part then resolve place parts
    else resolve (part :: place) parts

/-- The path of a URL, from the text after its first slash. -/
def readPath (k : Kind) (cs : List Char) : Path :=
  .segments (resolve [] ((splitSegments k cs).map (escape inPathSet))).reverse

/-- The path after an authority. -/
def readPathStart (k : Kind) (cs : List Char) : Path :=
  match cs with
  | [] => if k.isSpecial then .segments [[]] else .segments []
  | c :: rest => if isSlash k c then readPath k rest else readPath k (c :: rest)

/-- The text before and after the last `@`. -/
def cutUser (cs : List Char) : Option (List Char × List Char) :=
  match cs.reverse.dropWhile (· ≠ '@') with
  | _ :: before => some (before.reverse, (cs.reverse.takeWhile (· ≠ '@')).reverse)
  | [] => none

/-- The part of an authority that is its host: up to a colon outside brackets. -/
def hostLength (inBrackets : Bool) : List Char → Nat
  | [] => 0
  | c :: cs =>
    if c = ':' && !inBrackets then 0
    else hostLength (if c = '[' then true else if c = ']' then false else inBrackets) cs + 1

/-- A port of digits. The backslash ends it for every scheme. -/
def readPort (scheme cs : List Char) : Except Fault (Option Nat × List Char) :=
  let digits := cs.takeWhile Char.isDigit
  let rest := cs.dropWhile Char.isDigit
  let port := Text.ofDigits digits
  if 0xFFFF < port then .error .badPort
  else
    match rest with
    | [] => .ok (kept digits port, rest)
    | c :: _ => if c = '/' ∨ c = '\\' then .ok (kept digits port, rest) else .error .badPort
where
  kept (digits : List Char) (port : Nat) : Option Nat :=
    if digits.isEmpty || defaultPort? scheme = some port then none else some port

/-- The host and the port, and what follows them. `cs` begins after the user. -/
def readHost (scheme cs : List Char) : Except Fault (Option Host × Option Nat × List Char) := do
  let k := Kind.ofScheme scheme
  let upToPath := cs.takeWhile fun c => !isSlash k c
  let length := hostLength false upToPath
  let name := cs.take length
  let rest := cs.drop length
  if name.isEmpty && (k.isSpecial || rest.head? = some ':') then throw .emptyHost
  let host ←
    if name.isEmpty then pure none
    else some <$> if k.isSpecial then Host.ofDomain name else Host.ofOpaque name
  match rest with
  | ':' :: digits =>
    let (port, rest) ← readPort scheme digits
    return (host, port, rest)
  | rest => return (host, none, rest)

/-- The authority after `//`, and the path that follows it. `more` tells whether
a query or a fragment follows these. -/
def readAuthority (scheme : List Char) (more : Bool) (cs : List Char) :
    Except Fault (Authority × Path) := do
  let k := Kind.ofScheme scheme
  let length := (cs.takeWhile fun c => !isSlash k c).length
  let (user, password, rest) ←
    match cutUser (cs.take length) with
    | none => pure ([], [], cs)
    | some (info, after) =>
      let rest := after ++ cs.drop length
      if info.isEmpty && after.isEmpty && (more || length < cs.length) then throw .emptyHost
      let (user, password) := cutAt ':' info
      pure (escape inUserSet user, escape inUserSet (password.getD []), rest)
  let (host, port, rest) ← readHost scheme rest
  if host.isNone && !(user.isEmpty && password.isEmpty) then throw .emptyHost
  return (⟨user, password, host, port⟩, readPathStart k rest)

/-- A file's host, and its path. -/
def readFile (cs : List Char) : Except Fault (Option Authority × Path) := do
  match cs with
  | a :: b :: rest =>
    if isSlash .file a && isSlash .file b then
      let name := rest.takeWhile fun c => !isSlash .file c
      let after := rest.drop name.length
      if name.isEmpty then return (some ⟨[], [], none, none⟩, readPathStart .file after)
      else if isDrive name then return (some ⟨[], [], none, none⟩, readPath .file rest)
      else
        let host ← Host.ofDomain name
        let host := if host = .named ['l', 'o', 'c', 'a', 'l', 'h', 'o', 's', 't'] then none else some host
        return (some ⟨[], [], host, none⟩, readPathStart .file after)
    else return (some ⟨[], [], none, none⟩, readPathStart .file cs)
  | cs => return (some ⟨[], [], none, none⟩, readPathStart .file cs)

/-- The authority, if there is one, and the path. -/
def readRest (scheme : List Char) (more : Bool) (cs : List Char) :
    Except Fault (Option Authority × Path) :=
  match Kind.ofScheme scheme with
  | .internet => do
    let (authority, path) ← readAuthority scheme more (cs.dropWhile fun c => c = '/' || c = '\\')
    return (some authority, path)
  | .file => readFile cs
  | .other =>
    match cs with
    | '/' :: '/' :: rest => do
      let (authority, path) ← readAuthority scheme more rest
      return (some authority, path)
    | '/' :: rest => .ok (none, readPath .other rest)
    | cs => .ok (none, .opaqueText (escape needsEscape cs))

def parseChars (cs : List Char) : Except Fault Url := do
  let (cs, fragment) := cutAt '#' (clean cs)
  let (cs, query) := cutAt '?' cs
  match takeScheme cs with
  | none => throw .noScheme
  | some (scheme, rest) =>
    let (authority, path) ← readRest scheme (query.isSome || fragment.isSome) rest
    let special := (Kind.ofScheme scheme).isSpecial
    return ⟨scheme, authority, path, query.map (escape (inQuerySet special)),
      fragment.map (escape inFragmentSet)⟩

def parse (s : String) : Except Fault Url := parseChars s.toList

/-! ## User information -/

/-- A user and a password can stand only before a host. -/
def carriesUser (u : Url) : Bool :=
  u.kind ≠ .file &&
    match u.authority with
    | some a => a.host.isSome
    | none => false

def withoutUser (u : Url) : Url :=
  { u with authority := u.authority.map fun a => { a with user := [], password := [] } }

/-- The path without the slashes that lead it. -/
def relativePath (u : Url) : List Char := u.path.text.dropWhile (· = '/')

end Url

end ClusterOperator
