import ClusterOperator.Text.Utf8

/-!
# Bytes as text, read back

The bytes of a character are read as that character, whatever follows them.
-/

namespace ClusterOperator.Text

variable {b lo hi : UInt8} {bits more n : Nat} {c : Char}

/-! ## One byte -/

theorem decodeLossy_short (h : b < 0x80) (bs : List UInt8) :
    decodeLossy none (b :: bs) = Char.ofNat b.toNat :: decodeLossy none bs := by
  simp [decodeLossy, h]

theorem decodeLossy_lead (h : ¬ b < 0x80) (hs : sequenceShape b = some (more, lo, hi))
    (bs : List UInt8) :
    decodeLossy none (b :: bs) = decodeLossy (some (leadBits more b, more, lo, hi)) bs := by
  simp [decodeLossy, h, hs]

theorem decodeLossy_middle (hl : lo ≤ b) (hh : b ≤ hi) (hm : 1 < more) (bs : List UInt8) :
    decodeLossy (some (bits, more, lo, hi)) (b :: bs) =
      decodeLossy (some (bits * 64 + b.toNat % 64, more - 1, 0x80, 0xBF)) bs := by
  simp [decodeLossy, hl, hh, Nat.not_le_of_lt hm]

theorem decodeLossy_last (hl : lo ≤ b) (hh : b ≤ hi) (bs : List UInt8) :
    decodeLossy (some (bits, 1, lo, hi)) (b :: bs) =
      Char.ofNat (bits * 64 + b.toNat % 64) :: decodeLossy none bs := by
  simp [decodeLossy, hl, hh]

/-! ## First bytes -/

/-- What a first byte announces, and the bits that it holds itself. -/
structure Announces (b : UInt8) (bits more : Nat) (lo hi : UInt8) : Prop where
  long : ¬ b < 0x80
  shape : sequenceShape b = some (more, lo, hi)
  bits : leadBits more b = bits

theorem Announces.decodeLossy_eq (h : Announces b bits more lo hi) (bs : List UInt8) :
    decodeLossy none (b :: bs) = decodeLossy (some (bits, more, lo, hi)) bs := by
  rw [decodeLossy_lead h.long h.shape, h.bits]

theorem announces_two (h : 2 ≤ n) (h' : n < 32) :
    Announces (UInt8.ofNat (n + 192)) n 1 0x80 0xBF := by
  have all : ∀ n : Fin 32, 2 ≤ n.val → ¬ UInt8.ofNat (n.val + 192) < 0x80 ∧
      sequenceShape (UInt8.ofNat (n.val + 192)) = some (1, 0x80, 0xBF) ∧
      leadBits 1 (UInt8.ofNat (n.val + 192)) = n.val := by decide
  obtain ⟨h₁, h₂, h₃⟩ := all ⟨n, h'⟩ h
  exact ⟨h₁, h₂, h₃⟩

/-- Three bytes are not for what fits in two, nor for surrogates. -/
theorem announces_three (h : n < 16) :
    Announces (UInt8.ofNat (n + 224)) n 2 (if n = 0 then 0xA0 else 0x80)
      (if n = 13 then 0x9F else 0xBF) := by
  have all : ∀ n : Fin 16, ¬ UInt8.ofNat (n.val + 224) < 0x80 ∧
      sequenceShape (UInt8.ofNat (n.val + 224)) =
        some (2, if n.val = 0 then 0xA0 else 0x80, if n.val = 13 then 0x9F else 0xBF) ∧
      leadBits 2 (UInt8.ofNat (n.val + 224)) = n.val := by decide
  obtain ⟨h₁, h₂, h₃⟩ := all ⟨n, h⟩
  exact ⟨h₁, h₂, h₃⟩

/-- Four bytes are not for what fits in three, nor for what is beyond all planes. -/
theorem announces_four (h : n < 5) :
    Announces (UInt8.ofNat (n + 240)) n 3 (if n = 0 then 0x90 else 0x80)
      (if n = 4 then 0x8F else 0xBF) := by
  have all : ∀ n : Fin 5, ¬ UInt8.ofNat (n.val + 240) < 0x80 ∧
      sequenceShape (UInt8.ofNat (n.val + 240)) =
        some (3, if n.val = 0 then 0x90 else 0x80, if n.val = 4 then 0x8F else 0xBF) ∧
      leadBits 3 (UInt8.ofNat (n.val + 240)) = n.val := by decide
  obtain ⟨h₁, h₂, h₃⟩ := all ⟨n, h⟩
  exact ⟨h₁, h₂, h₃⟩

/-! ## The bytes of a character -/

/-- A byte that holds the lowest six bits of a number. -/
def lowBits (n : Nat) : UInt8 := UInt8.ofNat (n % 64 + 128)

theorem toNat_lowBits (n : Nat) : (lowBits n).toNat = n % 64 + 128 := by
  simp only [lowBits, UInt8.toNat_ofNat']
  omega

theorem toNat_lowBits_mod (n : Nat) : (lowBits n).toNat % 64 = n % 64 := by
  rw [toNat_lowBits]
  omega

theorem lowBits_fits (n : Nat) : 0x80 ≤ lowBits n ∧ lowBits n ≤ 0xBF := by
  simp only [UInt8.le_iff_toNat_le, toNat_lowBits, UInt8.reduceToNat]
  omega

/-- The bound from below of a second byte. -/
theorem le_lowBits {p : Prop} [Decidable p] (h : p → lo.toNat ≤ n % 64 + 128) :
    (if p then lo else 0x80) ≤ lowBits n := by
  by_cases hp : p
  · rw [if_pos hp, UInt8.le_iff_toNat_le, toNat_lowBits]
    exact h hp
  · rw [if_neg hp]
    exact (lowBits_fits n).1

/-- The bound from above of a second byte. -/
theorem lowBits_le {p : Prop} [Decidable p] (h : p → n % 64 + 128 ≤ hi.toNat) :
    lowBits n ≤ if p then hi else 0xBF := by
  by_cases hp : p
  · rw [if_pos hp, UInt8.le_iff_toNat_le, toNat_lowBits]
    exact h hp
  · rw [if_neg hp]
    exact (lowBits_fits n).2

/-- The bytes of a character are read as that character. -/
theorem decodeLossy_utf8EncodeChar (c : Char) (bs : List UInt8) :
    decodeLossy none (String.utf8EncodeChar c ++ bs) = c :: decodeLossy none bs := by
  have hvalid : c.toNat < 0xD800 ∨ 0xDFFF < c.toNat ∧ c.toNat < 0x110000 := c.valid
  have hc : Char.ofNat c.toNat = c := Char.ofNat_toNat c
  have hv : c.val.toNat = c.toNat := rfl
  unfold String.utf8EncodeChar
  rw [hv]
  generalize c.toNat = v at hvalid hc
  by_cases h₁ : v ≤ 0x7F
  · have hb : (UInt8.ofNat v).toNat = v := by
      rw [UInt8.toNat_ofNat']
      omega
    have hs : UInt8.ofNat v < 0x80 := by
      simp only [UInt8.lt_iff_toNat_lt, hb, UInt8.reduceToNat]
      omega
    simp only [h₁, if_true, List.cons_append, List.nil_append]
    rw [decodeLossy_short hs, hb, hc]
  by_cases h₂ : v ≤ 0x7FF
  · have ha := announces_two (n := v / 64 % 32) (by omega) (by omega)
    simp only [h₁, h₂, if_true, if_false, List.cons_append, List.nil_append]
    rw [ha.decodeLossy_eq]
    change decodeLossy _ (lowBits v :: bs) = _
    rw [decodeLossy_last (lowBits_fits v).1 (lowBits_fits v).2, toNat_lowBits_mod]
    have : v / 64 % 32 * 64 + v % 64 = v := by omega
    rw [this, hc]
  by_cases h₃ : v ≤ 0xFFFF
  · have ha := announces_three (n := v / 4096 % 16) (by omega)
    simp only [h₁, h₂, h₃, if_true, if_false, List.cons_append, List.nil_append]
    rw [ha.decodeLossy_eq]
    change decodeLossy _ (lowBits (v / 64) :: lowBits v :: bs) = _
    rw [decodeLossy_middle _ _ (by omega), decodeLossy_last (lowBits_fits v).1 (lowBits_fits v).2,
      toNat_lowBits_mod, toNat_lowBits_mod]
    · have : (v / 4096 % 16 * 64 + v / 64 % 64) * 64 + v % 64 = v := by omega
      rw [this, hc]
    · exact le_lowBits fun h => by simp only [UInt8.reduceToNat]; omega
    · exact lowBits_le fun h => by simp only [UInt8.reduceToNat]; omega
  · have ha := announces_four (n := v / 262144 % 8) (by omega)
    simp only [h₁, h₂, h₃, if_false, List.cons_append, List.nil_append]
    rw [ha.decodeLossy_eq]
    change decodeLossy _ (lowBits (v / 4096) :: lowBits (v / 64) :: lowBits v :: bs) = _
    rw [decodeLossy_middle _ _ (by omega),
      decodeLossy_middle (lowBits_fits _).1 (lowBits_fits _).2 (by omega),
      decodeLossy_last (lowBits_fits v).1 (lowBits_fits v).2, toNat_lowBits_mod, toNat_lowBits_mod,
      toNat_lowBits_mod]
    · have : ((v / 262144 % 8 * 64 + v / 4096 % 64) * 64 + v / 64 % 64) * 64 + v % 64 = v := by omega
      rw [this, hc]
    · exact le_lowBits fun h => by simp only [UInt8.reduceToNat]; omega
    · exact lowBits_le fun h => by simp only [UInt8.reduceToNat]; omega

theorem ofBytes_utf8 (cs : List Char) :
    ofBytes (cs.flatMap String.utf8EncodeChar) = String.ofList cs := by
  have hread : decodeLossy none (cs.flatMap String.utf8EncodeChar) = cs := by
    induction cs with
    | nil => rfl
    | cons c cs ih => rw [List.flatMap_cons, decodeLossy_utf8EncodeChar, ih]
  rw [ofBytes, hread]

end ClusterOperator.Text
