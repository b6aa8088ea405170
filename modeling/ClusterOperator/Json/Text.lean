import ClusterOperator.Decimal.Shortest
import ClusterOperator.Json.Basic
import ClusterOperator.Text.Digit

/-!
# JSON text

`Json.parse` reads a text, `Json.render` writes a value without blanks.
-/

namespace ClusterOperator.Json

/-! ## Writing -/

/-- Quote, backslash and control characters are escaped, all else stands for itself. -/
def writeChar (c : Char) (rest : List Char) : List Char :=
  if c = '"' then '\\' :: '"' :: rest
  else if c = '\\' then '\\' :: '\\' :: rest
  else if c = '\x08' then '\\' :: 'b' :: rest
  else if c = '\x0c' then '\\' :: 'f' :: rest
  else if c = '\n' then '\\' :: 'n' :: rest
  else if c = '\r' then '\\' :: 'r' :: rest
  else if c = '\t' then '\\' :: 't' :: rest
  else if c.toNat < 32 then
    '\\' :: 'u' :: '0' :: '0' :: Text.hexDigit 'a' (c.toNat / 16) ::
      Text.hexDigit 'a' (c.toNat % 16) :: rest
  else c :: rest

def writeText (s : String) (rest : List Char) : List Char :=
  '"' :: s.toList.foldr writeChar ('"' :: rest)

/-- Doubles have their point in its place between `10 ^ -5` and `10 ^ 16`. -/
def doubleLayout : Decimal.Layout := ⟨-4, 16, true⟩

def doubleText (x : Double) : String :=
  (if x.negative then "-" else "") ++
    if x.code = 0 then "0.0" else doubleLayout.write (Decimal.shortest x)

def writeNumber (n : Number) (rest : List Char) : List Char :=
  match n with
  | .int i => (toString i).toList ++ rest
  | .double x => (doubleText x).toList ++ rest

mutual

def write : Json → List Char → List Char
  | .null, rest => 'n' :: 'u' :: 'l' :: 'l' :: rest
  | .bool true, rest => 't' :: 'r' :: 'u' :: 'e' :: rest
  | .bool false, rest => 'f' :: 'a' :: 'l' :: 's' :: 'e' :: rest
  | .number n, rest => writeNumber n rest
  | .string s, rest => writeText s rest
  | .broken _ _, rest => rest
  | .array items, rest => '[' :: items.write true (']' :: rest)
  | .object members, rest => '{' :: members.write true ('}' :: rest)

/-- Items after the first are led by a comma. -/
def Items.write : Items → (first : Bool) → List Char → List Char
  | .nil, _, rest => rest
  | .cut _, _, rest => rest
  | .cons head tail, true, rest => head.write (tail.write false rest)
  | .cons head tail, false, rest => ',' :: head.write (tail.write false rest)

def Members.write : Members → (first : Bool) → List Char → List Char
  | .nil, _, rest => rest
  | .cut _ _, _, rest => rest
  | .cons key value tail, true, rest =>
    writeText (key.getD "") (':' :: value.write (tail.write false rest))
  | .cons key value tail, false, rest =>
    ',' :: writeText (key.getD "") (':' :: value.write (tail.write false rest))

end

def render (j : Json) : String := String.ofList (j.write [])

/-! ## Reading tokens -/

def isBlank (c : Char) : Bool := c = ' ' || c = '\n' || c = '\t' || c = '\r'

def skipBlanks : List Char → List Char
  | [] => []
  | c :: cs => if isBlank c then skipBlanks cs else c :: cs

def hex4? (a b c d : Char) : Option Nat :=
  match Text.hexValue? a, Text.hexValue? b, Text.hexValue? c, Text.hexValue? d with
  | some a, some b, some c, some d => some (((a * 16 + b) * 16 + c) * 16 + d)
  | _, _, _, _ => none

def isLead (n : Nat) : Bool := 0xD800 ≤ n && n ≤ 0xDBFF

def isTrail (n : Nat) : Bool := 0xDC00 ≤ n && n ≤ 0xDFFF

def pairChar (lead trail : Nat) : Char :=
  Char.ofNat (0x10000 + (lead - 0xD800) * 0x400 + (trail - 0xDC00))

/-- The character that a letter after a backslash stands for. -/
def escapedChar? (c : Char) : Option Char :=
  if c = '"' ∨ c = '\\' ∨ c = '/' then some c
  else if c = 'b' then some '\x08'
  else if c = 'f' then some '\x0c'
  else if c = 'n' then some '\n'
  else if c = 'r' then some '\r'
  else if c = 't' then some '\t'
  else none

/-- A string token up to its closing quote. -/
inductive Scan where
  /-- The text is `none` if the token can only be passed over. -/
  | closed (text : Option String) (rest : List Char)
  | cut (onRead onSkip : Fault)

/-- Once a token is unsound, reading it has failed before any later fault. -/
def Scan.cutAt (sound : Bool) (fault : Fault) : Scan :=
  .cut (if sound then fault else .malformed) fault

/-- The fault of fewer than four characters after the start of a hexadecimal
escape, which takes four bytes whatever they are. -/
def shortEscape (cs : List Char) : Fault :=
  if (String.ofList cs).utf8ByteSize < 4 then .truncated else .malformed

/-- Reads up to the closing quote, collecting the characters backwards. The
token is unsound once it held half a surrogate pair. -/
def scanText (seen : List Char) (sound : Bool) : List Char → Scan
  | [] => .cutAt sound .truncated
  | '"' :: rest => .closed (if sound then some (String.ofList seen.reverse) else none) rest
  | ['\\'] => .cutAt sound .truncated
  | '\\' :: 'u' :: a :: b :: c :: d :: rest =>
    match hex4? a b c d with
    | none => .cut .malformed .malformed
    | some n =>
      if isTrail n then scanText seen false rest
      else if isLead n then
        match rest with
        | [] => .cutAt sound .truncated
        | ['\\'] => .cutAt sound .truncated
        | '\\' :: 'u' :: e :: f :: g :: h :: rest =>
          match hex4? e f g h with
          | none => .cut .malformed .malformed
          | some m =>
            if isTrail m then scanText (pairChar n m :: seen) sound rest
            else scanText seen false rest
        | '\\' :: 'u' :: short => .cutAt sound (shortEscape short)
        | rest => scanText seen false rest
      else scanText (Char.ofNat n :: seen) sound rest
  | '\\' :: 'u' :: short => .cutAt sound (shortEscape short)
  | '\\' :: c :: rest =>
    match escapedChar? c with
    | none => .cut .malformed .malformed
    | some e => scanText (e :: seen) sound rest
  | c :: rest =>
    if c.toNat < 32 then .cut .malformed .malformed else scanText (c :: seen) sound rest

/-- A value read from the front of a text, with the rest unless the text was
cut short inside the value. -/
abbrev Partial := Json × Option (List Char)

def stuck (onRead onSkip : Fault) : Partial := (.broken onRead (some onSkip), none)

/-- The rest of `null`, `true` or `false`. -/
def readWord (value : Json) : List Char → List Char → Partial
  | [], rest => (value, some rest)
  | _ :: _, [] => stuck .truncated .truncated
  | w :: ws, c :: rest =>
    if c = w then readWord value ws rest else stuck .malformed .malformed

/-- Appends digits as long as the result fits into 64 bits, and tells how many
are left. -/
def appendDigits (n : Nat) : List Char → Nat × Nat
  | [] => (n, 0)
  | c :: cs =>
    let more := n * 10 + Text.digitValue c
    if more < 2 ^ 64 then appendDigits more cs else (n, cs.length + 1)

/-- A number of which as many digits are kept as fit into 64 bits. -/
structure Numeral where
  negative : Bool
  digits : Nat
  /-- Power of ten that the digits stand for. -/
  scale : Int
  /-- Whether the scale is that of a whole number that was kept in full. -/
  whole : Bool

/-- Numbers too large for a double can be passed over but not read. -/
def ofDouble? : Option Double → Json
  | some x => .number (.double x)
  | none => .broken .malformed none

/-- The token of a number without an exponent. -/
def Numeral.token (n : Numeral) : Json :=
  if n.whole then
    if !n.negative then .number (.int n.digits)
    else if 0 < n.digits ∧ n.digits ≤ 2 ^ 63 then .number (.int (-n.digits))
    else ofDouble? (Double.ofRatio? true n.digits 1)
  else ofDouble? (Double.ofScaled? n.negative n.digits n.scale)

/-- Exponents from here on are not worked out. -/
def exponentLimit : Nat := 2 ^ 31

def Numeral.tokenWith (n : Numeral) (down : Bool) (exponent : Nat) : Json :=
  if exponent < exponentLimit then
    ofDouble? (Double.ofScaled? n.negative n.digits
      (n.scale + if down then -(exponent : Int) else exponent))
  else if n.digits = 0 ∨ down then .number (.double (.zero n.negative))
  else .broken .malformed none

/-- The exponent, after its letter. -/
def readExponent (n : Numeral) (cs : List Char) : Partial :=
  let (down, cs) :=
    match cs with
    | '+' :: rest => (false, rest)
    | '-' :: rest => (true, rest)
    | rest => (false, rest)
  match cs with
  | [] => stuck .truncated .malformed
  | c :: _ =>
    if c.isDigit then
      (n.tokenWith down (Text.ofDigits (cs.takeWhile Char.isDigit)), some (cs.dropWhile Char.isDigit))
    else stuck .malformed .malformed

/-- What may follow the whole part: a fraction, an exponent, or neither. -/
def readFraction (negative : Bool) (whole : List Char) (cs : List Char) : Partial :=
  let (digits, left) := appendDigits 0 whole
  let n : Numeral := ⟨negative, digits, left, left = 0⟩
  match cs with
  | [] => (n.token, some [])
  | '.' :: cs =>
    match cs with
    | [] => stuck .truncated .malformed
    | c :: _ =>
      if c.isDigit then
        let fraction := cs.takeWhile Char.isDigit
        let (digits, unused) := appendDigits digits fraction
        let n : Numeral := ⟨negative, digits, left - (fraction.length - unused : Nat), false⟩
        match cs.dropWhile Char.isDigit with
        | 'e' :: rest => readExponent n rest
        | 'E' :: rest => readExponent n rest
        | rest => (n.token, some rest)
      else stuck .malformed .malformed
  | 'e' :: rest => readExponent n rest
  | 'E' :: rest => readExponent n rest
  | rest => (n.token, some rest)

/-- A number, after its sign. -/
def readNumber (negative : Bool) : List Char → Partial
  | [] => stuck .truncated .malformed
  | '0' :: rest =>
    match rest with
    | [] => readFraction negative ['0'] []
    | c :: _ => if c.isDigit then stuck .malformed .malformed else readFraction negative ['0'] rest
  | c :: rest =>
    if c.isDigit then
      readFraction negative (c :: rest.takeWhile Char.isDigit) (rest.dropWhile Char.isDigit)
    else stuck .malformed .malformed

/-! ## Reading values -/

mutual

/-- Reads one value. The fuel is a bound on the steps; any number above three
times the length of the text is enough. -/
def readValue : Nat → List Char → Partial
  | 0, _ => stuck .truncated .truncated
  | fuel + 1, cs =>
    match skipBlanks cs with
    | [] => stuck .truncated .truncated
    | c :: rest =>
      if c = '"' then
        match scanText [] true rest with
        | .closed (some s) rest => (.string s, some rest)
        | .closed none rest => (.broken .malformed none, some rest)
        | .cut onRead onSkip => stuck onRead onSkip
      else if c = '[' then
        let (items, rest) := readItems fuel true rest
        (.array items, rest)
      else if c = '{' then
        let (members, rest) := readMembers fuel true rest
        (.object members, rest)
      else if c = 'n' then readWord .null ['u', 'l', 'l'] rest
      else if c = 't' then readWord (.bool true) ['r', 'u', 'e'] rest
      else if c = 'f' then readWord (.bool false) ['a', 'l', 's', 'e'] rest
      else if c = '-' then readNumber true rest
      else if c.isDigit then readNumber false (c :: rest)
      else stuck .malformed .malformed

/-- Reads items up to the closing bracket; all but the first follow a comma. -/
def readItems : Nat → (first : Bool) → List Char → Items × Option (List Char)
  | 0, _, _ => (.cut .truncated, none)
  | fuel + 1, first, cs =>
    match skipBlanks cs with
    | [] => (.cut .truncated, none)
    | c :: rest =>
      if c = ']' then (.nil, some rest)
      else if first ∨ c = ',' then
        match readValue fuel (if first then c :: rest else rest) with
        | (head, none) => (.cons head .nil, none)
        | (head, some rest) =>
          let (tail, rest) := readItems fuel false rest
          (.cons head tail, rest)
      else (.cut .malformed, none)

/-- Reads members up to the closing brace; all but the first follow a comma. -/
def readMembers : Nat → (first : Bool) → List Char → Members × Option (List Char)
  | 0, _, _ => (.cut .truncated .truncated, none)
  | fuel + 1, first, cs =>
    match skipBlanks cs with
    | [] => (.cut .truncated .truncated, none)
    | c :: rest =>
      if c = '}' then (.nil, some rest)
      else if first ∨ c = ',' then
        match skipBlanks (if first then c :: rest else rest) with
        | [] => (.cut .truncated .truncated, none)
        | q :: rest =>
          if q = '"' then
            match scanText [] true rest with
            | .cut onRead onSkip => (.cut onRead onSkip, none)
            | .closed key rest =>
              match skipBlanks rest with
              | [] => (.cons key (.broken .truncated (some .truncated)) .nil, none)
              | ':' :: rest =>
                match readValue fuel rest with
                | (value, none) => (.cons key value .nil, none)
                | (value, some rest) =>
                  let (tail, rest) := readMembers fuel false rest
                  (.cons key value tail, rest)
              | _ => (.cons key (.broken .malformed (some .malformed)) .nil, none)
          else (.cut .malformed .malformed, none)
      else (.cut .malformed .malformed, none)

end

/-- A text as read: its value, and whether more than blanks follows it. -/
structure Document where
  value : Json
  trailing : Bool

def parse (text : String) : Document :=
  let cs := text.toList
  match readValue (3 * cs.length + 3) cs with
  | (value, some rest) => ⟨value, !(skipBlanks rest).isEmpty⟩
  | (value, none) => ⟨value, false⟩

end ClusterOperator.Json
