import ClusterOperator.Power

/-!
# SHA-1
-/

namespace ClusterOperator.Digest

namespace Sha1

structure State where
  a : UInt32
  b : UInt32
  c : UInt32
  d : UInt32
  e : UInt32
  deriving DecidableEq, Repr

def State.initial : State := ⟨0x67452301, 0xEFCDAB89, 0x98BADCFE, 0x10325476, 0xC3D2E1F0⟩

def State.add (s t : State) : State := ⟨s.a + t.a, s.b + t.b, s.c + t.c, s.d + t.d, s.e + t.e⟩

def rotate (x : UInt32) (n : UInt32) : UInt32 := (x <<< n) ||| (x >>> (32 - n))

/-- A number in `count` bytes, the highest first. -/
def bigEndian (count n : Nat) : List UInt8 :=
  (List.range count).map fun i => UInt8.ofNat (n / 256 ^ (count - 1 - i))

/-- The message, a one bit, zeros, and the length in bits. -/
def padded (message : List UInt8) : List UInt8 :=
  message ++ 0x80 :: List.replicate ((119 - message.length % 64) % 64) 0 ++
    bigEndian 8 (message.length * 8)

/-- Four bytes to a word. -/
def words : List UInt8 → List UInt32
  | a :: b :: c :: d :: rest =>
    ((a.toUInt32 <<< 24) ||| (b.toUInt32 <<< 16) ||| (c.toUInt32 <<< 8) ||| d.toUInt32) :: words rest
  | _ => []

/-- The word that follows the given ones, the latest first. -/
def nextWord (recent : List UInt32) : UInt32 :=
  rotate (recent.getD 2 0 ^^^ recent.getD 7 0 ^^^ recent.getD 13 0 ^^^ recent.getD 15 0) 1

def stretch : Nat → List UInt32 → List UInt32
  | 0, recent => recent
  | n + 1, recent => stretch n (nextWord recent :: recent)

/-- The function and the constant of a round. -/
def mix (round : Nat) (b c d : UInt32) : UInt32 :=
  if round < 20 then ((b &&& c) ||| (~~~b &&& d)) + 0x5A827999
  else if round < 40 then (b ^^^ c ^^^ d) + 0x6ED9EBA1
  else if round < 60 then ((b &&& c) ||| (b &&& d) ||| (c &&& d)) + 0x8F1BBCDC
  else (b ^^^ c ^^^ d) + 0xCA62C1D6

def step (s : State) (round : Nat) (word : UInt32) : State :=
  ⟨rotate s.a 5 + mix round s.b s.c s.d + s.e + word, s.a, rotate s.b 30, s.c, s.d⟩

def block (s : State) (words : List UInt32) : State :=
  let all := (stretch 64 words.reverse).reverse
  s.add (all.zipIdx.foldl (fun s (word, round) => step s round word) s)

/-- Blocks of sixteen words. The fuel is a bound on their number. -/
def blocks : Nat → State → List UInt32 → State
  | 0, s, _ => s
  | n + 1, s, ws => if ws.isEmpty then s else blocks n (block s (ws.take 16)) (ws.drop 16)

end Sha1

/-- Twenty bytes. -/
def sha1 (message : List UInt8) : List UInt8 :=
  let ws := Sha1.words (Sha1.padded message)
  let s := Sha1.blocks ws.length .initial ws
  [s.a, s.b, s.c, s.d, s.e].flatMap fun w => Sha1.bigEndian 4 w.toNat

end ClusterOperator.Digest
