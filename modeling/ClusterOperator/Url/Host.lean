import ClusterOperator.Url.Domain

/-!
# Hosts
-/

namespace ClusterOperator.Url

/-- Why a text is no URL. -/
inductive Fault where
  | noScheme
  | emptyHost
  | badPort
  | badIpv4
  | badIpv6
  | badHostChar
  | badDomain
  deriving DecidableEq, Repr

def Fault.message : Fault → String
  | .noScheme => "relative URL without a base"
  | .emptyHost => "empty host"
  | .badPort => "invalid port number"
  | .badIpv4 => "invalid IPv4 address"
  | .badIpv6 => "invalid IPv6 address"
  | .badHostChar => "invalid domain character"
  | .badDomain => "invalid international domain name"

inductive Host where
  | named (text : List Char)
  | ipv4 (address : Nat)
  | ipv6 (groups : List Nat)
  deriving DecidableEq, Repr

namespace Host

def text : Host → List Char
  | .named text => text
  | .ipv4 address => Ipv4.text address
  | .ipv6 groups => '[' :: Ipv6.text groups ++ [']']

/-- An address in brackets, after the opening one. -/
def ofBracketed (cs : List Char) : Except Fault Host :=
  if cs.getLast? = some ']' then
    match Ipv6.parse? cs.dropLast with
    | some groups => .ok (.ipv6 groups)
    | none => .error .badIpv6
  else .error .badIpv6

/-- Characters that would end the host, or that mark a slip. -/
def isForbidden (c : Char) : Bool :=
  c = '\x00' || c = '\t' || c = '\n' || c = '\r' || c = ' ' || c = '#' || c = '/' || c = ':' ||
    c = '<' || c = '>' || c = '?' || c = '@' || c = '[' || c = '\\' || c = ']' || c = '^' || c = '|'

/-- A host of a scheme that gives it no meaning, kept as it is. -/
def ofOpaque (cs : List Char) : Except Fault Host :=
  match cs with
  | '[' :: rest => ofBracketed rest
  | cs => if cs.any isForbidden then .error .badHostChar else .ok (.named (escape needsEscape cs))

/-- A host on the internet: a domain name or an address. -/
def ofDomain (cs : List Char) : Except Fault Host :=
  match cs with
  | '[' :: rest => ofBracketed rest
  | cs =>
    match domainToAscii (unescape cs) with
    | none => .error .badDomain
    | some [] => .error .emptyHost
    | some name =>
      if Ipv4.endsInNumber name then
        match Ipv4.parse? name with
        | some address => .ok (.ipv4 address)
        | none => .error .badIpv4
      else .ok (.named name)

end Host

end ClusterOperator.Url
