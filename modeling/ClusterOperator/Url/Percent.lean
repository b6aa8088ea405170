import ClusterOperator.Text.Digit
import ClusterOperator.Text.Utf8

/-!
# Percent-encoding

Each part of a URL has a set of characters that it cannot hold as they are;
their bytes are written as `%` and two digits. No set contains `%` itself.
-/

namespace ClusterOperator.Url

/-- Control characters and everything beyond ASCII. -/
def needsEscape (c : Char) : Bool := c.toNat < 0x20 || 0x7F ≤ c.toNat

def inFragmentSet (c : Char) : Bool :=
  needsEscape c || c = ' ' || c = '"' || c = '<' || c = '>' || c = '`'

def inQuerySet (special : Bool) (c : Char) : Bool :=
  needsEscape c || c = ' ' || c = '"' || c = '#' || c = '<' || c = '>' || (special && c = '\'')

def inPathSet (c : Char) : Bool :=
  inFragmentSet c || c = '#' || c = '?' || c = '\x7b' || c = '\x7d'

def inUserSet (c : Char) : Bool :=
  inPathSet c || c = '/' || c = ':' || c = ';' || c = '=' || c = '@' || c = '[' || c = '\\' ||
    c = ']' || c = '^' || c = '|'

def escapeByte (b : UInt8) : List Char :=
  ['%', Text.hexDigit 'A' (b.toNat / 16), Text.hexDigit 'A' (b.toNat % 16)]

def escape (set : Char → Bool) (cs : List Char) : List Char :=
  cs.flatMap fun c => if set c then (String.utf8EncodeChar c).flatMap escapeByte else [c]

/-- The bytes of a text whose escapes are undone; a `%` without two digits
after it stays. -/
def unescape : List Char → List UInt8
  | [] => []
  | '%' :: a :: b :: rest =>
    match Text.hexValue? a, Text.hexValue? b with
    | some x, some y => UInt8.ofNat (x * 16 + y) :: unescape rest
    | _, _ => 0x25 :: unescape (a :: b :: rest)
  | c :: rest => String.utf8EncodeChar c ++ unescape rest

end ClusterOperator.Url
