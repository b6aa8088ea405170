import ClusterOperator.Digest.Uuid
import ClusterOperator.Proofs.Text.Digits

/-!
# Identifiers and their texts

The text of an identifier can be read back, so identifiers with one text are one.
Texts of identifiers made from names all have the same length.
-/

namespace ClusterOperator

namespace Uuid

open Text

/-- Groups of digits, with a dash between any two. -/
theorem filterMap_groups (ds : List Char) :
    (ds.take 8 ++ '-' :: (ds.drop 8).take 4 ++ '-' :: (ds.drop 12).take 4 ++
      '-' :: (ds.drop 16).take 4 ++ '-' :: ds.drop 20).filterMap hexValue? =
      ds.filterMap hexValue? := by
  have dash : hexValue? '-' = none := by decide
  have group : ∀ n, (ds.drop n).take 4 ++ ds.drop (n + 4) = ds.drop n := by
    intro n
    rw [← List.drop_drop, List.take_append_drop]
  simp only [List.filterMap_append, List.filterMap_cons, dash, List.append_assoc]
  simp only [← List.filterMap_append]
  rw [group 16, group 12, group 8, List.take_append_drop]

theorem ofHex_text (u : Uuid) : ofHex u.text.toList = u.value := by
  unfold text
  rw [String.toList_ofList]
  unfold ofHex
  rw [filterMap_groups]
  exact (ofHex_zeros _ _).trans (ofHex_toDigits u.value)

theorem text_inj {u v : Uuid} (h : u.text = v.text) : u = v := by
  have hv : u.value = v.value := by rw [← ofHex_text u, h, ofHex_text v]
  cases u
  cases v
  cases hv
  rfl

theorem length_text {u : Uuid} (h : u.value < 16 ^ 32) : u.text.toList.length = 36 := by
  have hd : (Nat.toDigits 16 u.value).length ≤ 32 := (Nat.length_toDigits_le_iff (by omega) (by omega)).mpr h
  have hl := length_zeroPadded hd
  simp [text, hl]

theorem ofBytes_lt (bs : List UInt8) : (ofBytes bs).value < 256 ^ bs.length := by
  have step : ∀ (bs : List UInt8) (n k : Nat), n < 256 ^ k →
      bs.foldl (fun n b => n * 256 + b.toNat) n < 256 ^ (k + bs.length) := by
    intro bs
    induction bs with
    | nil => exact fun n k h => h
    | cons b bs ih =>
      intro n k h
      have hb := b.toNat_lt
      have hk : n * 256 + b.toNat < 256 ^ (k + 1) := by
        rw [Nat.pow_succ]
        omega
      have hi := ih _ (k + 1) hk
      rwa [Nat.add_assoc, Nat.add_comm 1] at hi
  simpa [ofBytes] using step bs 0 0 (by decide)

theorem ofName_lt (ns : Uuid) (name : List UInt8) : (ofName ns name).value < 16 ^ 32 := by
  unfold ofName
  refine Nat.lt_of_lt_of_le (ofBytes_lt _) ?_
  have h16 : (16 : Nat) ^ 32 = 256 ^ 16 := by decide
  rw [h16]
  refine Nat.pow_le_pow_right (by omega) ?_
  simp

end Uuid

end ClusterOperator
