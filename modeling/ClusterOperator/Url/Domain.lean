import ClusterOperator.Text.Composed
import ClusterOperator.Text.Utf8
import ClusterOperator.Url.Address
import ClusterOperator.Url.Domain.Direction
import ClusterOperator.Url.Domain.Joiner
import ClusterOperator.Url.Domain.Mapping
import ClusterOperator.Url.Punycode

/-!
# Domain names in ASCII

Names of hosts are compared in small letters and in composed form, and sent in
ASCII. A label with other characters is sent in Punycode behind a mark of four
characters; a label that comes with the mark must be one that would be sent so.
-/

namespace ClusterOperator.Url

/-- A name or a label, in code points. -/
abbrev Points := List Nat

/-- Characters of ASCII that end a host or that no host can hold. -/
def isDenied (n : Nat) : Bool :=
  n ≤ 0x20 || n = 0x7F || n = '%'.toNat || n = '#'.toNat || n = '/'.toNat || n = ':'.toNat ||
    n = '<'.toNat || n = '>'.toNat || n = '?'.toNat || n = '@'.toNat || n = '['.toNat ||
    n = '\\'.toNat || n = ']'.toNat || n = '^'.toNat || n = '|'.toNat

def isAscii (label : Points) : Bool := label.all (· < 0x80)

/-- `xn--`. -/
def codeMark : Points := [0x78, 0x6E, 0x2D, 0x2D]

/-- The most digits that are decoded. -/
def mostDigits : Nat := 2000

/-- The most characters of a label that is encoded. -/
def mostEncoded : Nat := 1000

/-- The label that Punycode stands for, if that is one of plain characters in
composed form. -/
def decodeLabel? (code : Points) : Option Points :=
  if code.getLast? = some '-'.toNat ∨ code.isEmpty ∨ mostDigits < code.length ∨ !isAscii code then
    none
  else
    match Punycode.decode? (code.map Char.ofNat) with
    | none => none
    | some label =>
      if label.all (fun n => isPlain n && !isDenied n) && Text.composed label = label then some label
      else none

/-- A label may not start with a mark, hold a joiner that has no effect, or be
too long to be encoded. -/
def isLabel (label : Points) : Bool :=
  !label.head?.any Text.isMark && joinersFit [] label &&
    (isAscii label || label.length ≤ mostEncoded)

/-- A label as it is read, from one as it is spelled. -/
def readLabel? (label : Points) : Option Points :=
  if label.any isDenied then none
  else
    let read := if codeMark.isPrefixOf label then decodeLabel? (label.drop 4) else some label
    read.filter isLabel

/-- The labels of a name as they are read. The name is put into small letters and
composed form as a whole, as characters of other scripts separate labels too. -/
def readName? (name : Points) : Option (List Points) := do
  let spelled ← name.mapM spelling?
  let labels ← (splitOn '.'.toNat (Text.composed spelled.flatten)).mapM readLabel?
  if areClear labels then some labels else none

def sendLabel (label : Points) : List Char :=
  if isAscii label then label.map Char.ofNat else 'x' :: 'n' :: '-' :: '-' :: Punycode.encode label

/-- The name of a host, given in bytes, in ASCII. -/
def domainToAscii (bytes : List UInt8) : Option (List Char) :=
  (readName? ((Text.ofBytes bytes).toList.map Char.toNat)).map fun labels =>
    joinWith ['.'] (labels.map sendLabel)

end ClusterOperator.Url
