/-!
# Bytes as text

Well-formed UTF-8 is taken as it is; every longest piece that could still have
become a character, and every byte that cannot start one, is replaced by U+FFFD.
-/

namespace ClusterOperator.Text

def isContinuation (b : UInt8) : Bool := 0x80 ≤ b && b ≤ 0xBF

/-- How many more bytes a first byte announces, with the bounds of the second. -/
def sequenceShape (b : UInt8) : Option (Nat × UInt8 × UInt8) :=
  if 0xC2 ≤ b && b ≤ 0xDF then some (1, 0x80, 0xBF)
  else if b = 0xE0 then some (2, 0xA0, 0xBF)
  else if 0xE1 ≤ b && b ≤ 0xEC || 0xEE ≤ b && b ≤ 0xEF then some (2, 0x80, 0xBF)
  else if b = 0xED then some (2, 0x80, 0x9F)
  else if b = 0xF0 then some (3, 0x90, 0xBF)
  else if 0xF1 ≤ b && b ≤ 0xF3 then some (3, 0x80, 0xBF)
  else if b = 0xF4 then some (3, 0x80, 0x8F)
  else none

def leadBits (more : Nat) (b : UInt8) : Nat :=
  match more with
  | 1 => b.toNat % 0x20
  | 2 => b.toNat % 0x10
  | _ => b.toNat % 0x08

def replacement : Char := '\uFFFD'

/-- Decodes bytes. `pending` holds the bits of a character under way, how many
bytes it still needs, and the bounds of the next one. -/
def decodeLossy (pending : Option (Nat × Nat × UInt8 × UInt8)) : List UInt8 → List Char
  | [] => if pending.isSome then [replacement] else []
  | b :: bs =>
    let start (before : List Char) : List Char :=
      if b < 0x80 then before ++ Char.ofNat b.toNat :: decodeLossy none bs
      else
        match sequenceShape b with
        | some (more, lo, hi) => before ++ decodeLossy (some (leadBits more b, more, lo, hi)) bs
        | none => before ++ replacement :: decodeLossy none bs
    match pending with
    | none => start []
    | some (bits, more, lo, hi) =>
      if lo ≤ b && b ≤ hi then
        let bits := bits * 64 + b.toNat % 64
        if more ≤ 1 then Char.ofNat bits :: decodeLossy none bs
        else decodeLossy (some (bits, more - 1, 0x80, 0xBF)) bs
      else start [replacement]

def ofBytes (bs : List UInt8) : String := String.ofList (decodeLossy none bs)

end ClusterOperator.Text
