import ClusterOperator.Digest.Sha1
import ClusterOperator.Text.Digit

/-!
# Identifiers made from names
-/

namespace ClusterOperator

/-- A number of 128 bits that identifies something. -/
structure Uuid where
  value : Nat
  deriving DecidableEq, Repr

namespace Uuid

def bytes (u : Uuid) : List UInt8 := Digest.Sha1.bigEndian 16 u.value

def ofBytes (bs : List UInt8) : Uuid := ⟨bs.foldl (fun n b => n * 256 + b.toNat) 0⟩

/-- The identifier of a name within a namespace, of version five: the digest of
both with version and variant put in. -/
def ofName (ns : Uuid) (name : List UInt8) : Uuid :=
  let digest := (Digest.sha1 (ns.bytes ++ name)).take 16
  ofBytes (digest.zipIdx.map fun (b, i) =>
    if i = 6 then (b &&& 0x0F) ||| 0x50 else if i = 8 then (b &&& 0x3F) ||| 0x80 else b)

/-- Groups of 8, 4, 4, 4 and 12 digits. -/
def text (u : Uuid) : String :=
  let ds := Text.zeroPadded 32 (Nat.toDigits 16 u.value)
  String.ofList (ds.take 8 ++ '-' :: (ds.drop 8).take 4 ++ '-' :: (ds.drop 12).take 4 ++
    '-' :: (ds.drop 16).take 4 ++ '-' :: ds.drop 20)

/-- The namespace of the operator's own identifiers. -/
def operator : Uuid := ⟨0xb208adb0ca7640f7ab288a505730bd25⟩

end Uuid

end ClusterOperator
