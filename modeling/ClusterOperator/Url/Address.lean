import ClusterOperator.Power
import ClusterOperator.Url.Percent

/-!
# Numeric hosts

IPv4 addresses in their many spellings, and IPv6 addresses with at most one
gap of zeros.
-/

namespace ClusterOperator.Url

/-- Cuts a text at each separator. -/
def splitOn {α : Type} [DecidableEq α] (sep : α) : List α → List (List α)
  | [] => [[]]
  | c :: cs =>
    if c = sep then [] :: splitOn sep cs
    else
      match splitOn sep cs with
      | part :: parts => (c :: part) :: parts
      | [] => [[c]]

/-- Puts a separator between parts. -/
def joinWith (sep : List Char) : List (List Char) → List Char
  | [] => []
  | [part] => part
  | part :: parts => part ++ sep ++ joinWith sep parts

/-- The value of digits in a base; none if there is another character. -/
def numeral? (base : Nat) (cs : List Char) : Option Nat :=
  cs.foldl
    (fun n? c =>
      match n?, Text.hexValue? c with
      | some n, some d => if d < base then some (n * base + d) else none
      | _, _ => none)
    (some 0)

/-! ## IPv4 -/

namespace Ipv4

/-- A part of an address, written in base ten, in base eight after a zero, or
in base sixteen after `0x`. -/
def part? : List Char → Option Nat
  | [] => none
  | '0' :: 'x' :: digits => numeral? 16 digits
  | '0' :: 'X' :: digits => numeral? 16 digits
  | '0' :: c :: digits => numeral? 8 (c :: digits)
  | digits => numeral? 10 digits

/-- The parts of a name, without the empty one after a dot at the end. -/
def parts (name : List Char) : List (List Char) :=
  let all := splitOn '.' name
  if all.getLast? = some [] then all.dropLast else all

/-- Names that end in a number are addresses, or else faulty. -/
def endsInNumber (name : List Char) : Bool :=
  match (parts name).getLast? with
  | some last => (!last.isEmpty && last.all Char.isDigit) || (part? last).isSome
  | none => false

/-- The last part fills all the bytes that the parts before it leave. -/
def parse? (name : List Char) : Option Nat :=
  let parts := parts name
  if parts.length > 4 then none
  else
    match parts.mapM part? with
    | none => none
    | some numbers =>
      match numbers.getLast? with
      | none => none
      | some last =>
        let leading := numbers.dropLast
        if leading.any (255 < ·) || 256 ^ (4 - leading.length) ≤ last then none
        else some (leading.zipIdx.foldl (fun n (part, i) => n + part * 256 ^ (3 - i)) last)

def text (address : Nat) : List Char :=
  joinWith ['.'] ([3, 2, 1, 0].map fun i => (toString (address / 256 ^ i % 256)).toList)

end Ipv4

/-! ## IPv6 -/

namespace Ipv6

/-- One to four hexadecimal digits. -/
def group? (cs : List Char) : Option Nat :=
  if cs.isEmpty || 4 < cs.length then none else numeral? 16 cs

/-- A byte in base ten, without a leading zero. -/
def byte? (cs : List Char) : Option Nat :=
  match cs with
  | ['0'] => some 0
  | '0' :: _ => none
  | [] => none
  | cs => if 3 < cs.length then none else (numeral? 10 cs).filter (· < 256)

/-- Two groups written as four bytes with dots between them. -/
def dotted? (cs : List Char) : Option (List Nat) :=
  match (splitOn '.' cs).mapM byte? with
  | some [a, b, c, d] => some [a * 256 + b, c * 256 + d]
  | _ => none

/-- Groups between colons; the last may be dotted if that is allowed here. -/
def groups? (dotted : Bool) : List (List Char) → Option (List Nat)
  | [] => some []
  | [last] =>
    match group? last with
    | some g => some [g]
    | none => if dotted then dotted? last else none
  | part :: parts =>
    match group? part, groups? dotted parts with
    | some g, some gs => some (g :: gs)
    | _, _ => none

/-- The text before and after the first gap. -/
def splitGap : List Char → Option (List Char × List Char)
  | ':' :: ':' :: rest => some ([], rest)
  | c :: rest => (splitGap rest).map fun (before, after) => (c :: before, after)
  | [] => none

/-- Groups of a text that may be empty. -/
def side? (dotted : Bool) (cs : List Char) : Option (List Nat) :=
  if cs.isEmpty then some [] else groups? dotted (splitOn ':' cs)

/-- The eight groups of an address. A gap stands for at least one zero. -/
def parse? (cs : List Char) : Option (List Nat) :=
  match splitGap cs with
  | none =>
    match groups? true (splitOn ':' cs) with
    | some gs => if gs.length = 8 then some gs else none
    | none => none
  | some (before, after) =>
    match side? false before, side? true after with
    | some head, some tail =>
      if head.length + tail.length < 8 then
        some (head ++ List.replicate (8 - (head.length + tail.length)) 0 ++ tail)
      else none
    | _, _ => none

/-- How many zeros each group begins. -/
def zeroRuns : List Nat → List Nat
  | [] => []
  | g :: gs =>
    let runs := zeroRuns gs
    (if g = 0 then runs.headD 0 + 1 else 0) :: runs

def groupText (g : Nat) : List Char := Nat.toDigits 16 g

def groupsText (gs : List Nat) : List Char := joinWith [':'] (gs.map groupText)

/-- The first of the longest runs of zeros becomes the gap, if it is longer
than one. -/
def text (groups : List Nat) : List Char :=
  let runs := zeroRuns groups
  let longest := runs.foldl max 0
  if longest < 2 then groupsText groups
  else
    let start := runs.findIdx (· = longest)
    groupsText (groups.take start) ++ [':', ':'] ++ groupsText (groups.drop (start + longest))

end Ipv6

end ClusterOperator.Url
