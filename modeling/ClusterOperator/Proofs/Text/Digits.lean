import Mathlib.Data.Nat.Digits.Defs
import ClusterOperator.Text.Digit

/-!
# Digits and the numbers they stand for

The digits of a number stand for it, in base ten and in base sixteen, with zeros before them
or without. A run of digits is told from what follows it.
-/

namespace ClusterOperator.Text

variable {n d width : Nat} {ds rest : List Char}

/-! ## Base ten -/

theorem ofDigits_eq (ds : List Char) : ofDigits ds = Nat.ofDigitChars 10 ds 0 := by
  unfold ofDigits Nat.ofDigitChars digitValue
  simp only [Nat.mul_comm]

theorem ofDigits_toDigits (n : Nat) : ofDigits (Nat.toDigits 10 n) = n := by
  rw [ofDigits_eq, Nat.ofDigitChars_toDigits (by omega) (by omega)]

theorem ofDigits_zeroPadded (width : Nat) (ds : List Char) :
    ofDigits (zeroPadded width ds) = ofDigits ds := by
  unfold zeroPadded
  rw [ofDigits_eq, ofDigits_eq, Nat.ofDigitChars_append, Nat.ofDigitChars_replicate_zero]
  simp

theorem isDigit_zeroPadded (h : ∀ c ∈ ds, c.isDigit = true) :
    ∀ c ∈ zeroPadded width ds, c.isDigit = true := by
  intro c hc
  rcases List.mem_append.mp hc with hc | hc
  · rw [List.eq_of_mem_replicate hc]
    decide
  · exact h c hc

theorem isDigit_toDigits (n : Nat) : ∀ c ∈ Nat.toDigits 10 n, c.isDigit = true := by
  intro c hc
  exact Nat.isDigit_of_mem_toDigits (by omega) (by omega) hc

theorem head?_toDigits (h : 0 < n) : (Nat.toDigits 10 n).head? ≠ some '0' := by
  have small : ∀ d : Fin 10, 0 < d.val → Nat.digitChar d ≠ '0' := by decide
  induction n using Nat.strongRecOn with
  | ind n ih =>
    rw [Nat.toDigits_eq_if (by omega)]
    split
    · next hn =>
      have hd := small ⟨n, hn⟩ h
      simpa using hd
    · next hn =>
      have hi := ih (n / 10) (by omega) (by omega)
      cases hd : Nat.toDigits 10 (n / 10) with
      | nil => exact absurd hd Nat.toDigits_ne_nil
      | cons c cs =>
        rw [hd] at hi
        exact hi

theorem length_zeroPadded (h : ds.length ≤ width) : (zeroPadded width ds).length = width := by
  have hw : width - ds.length + ds.length = width := by omega
  simp [zeroPadded, hw]

/-! ## Runs of digits -/

/-- No digit comes first. -/
def NoDigit (cs : List Char) : Prop := ∀ c ∈ cs.head?, c.isDigit = false

theorem takeWhile_digits (h : ∀ c ∈ ds, c.isDigit = true) (hr : NoDigit rest) :
    (ds ++ rest).takeWhile Char.isDigit = ds := by
  rw [List.takeWhile_append_of_pos h]
  cases rest with
  | nil => simp
  | cons c rest => simp [hr c rfl]

theorem dropWhile_digits (h : ∀ c ∈ ds, c.isDigit = true) (hr : NoDigit rest) :
    (ds ++ rest).dropWhile Char.isDigit = rest := by
  rw [List.dropWhile_append_of_pos h]
  cases rest with
  | nil => rfl
  | cons c rest => simp [hr c rfl]

/-! ## Base sixteen -/

/-- The number that hexadecimal digits stand for, whatever stands between them. -/
def ofHex (cs : List Char) : Nat := (cs.filterMap hexValue?).foldl (fun n d => n * 16 + d) 0

theorem hexValue?_digitChar (h : d < 16) : hexValue? (Nat.digitChar d) = some d := by
  have all : ∀ d : Fin 16, hexValue? (Nat.digitChar d) = some d.val := by decide
  exact all ⟨d, h⟩

theorem hexValue?_hexDigit (h : d < 16) : hexValue? (hexDigit 'a' d) = some d := by
  have all : ∀ d : Fin 16, hexValue? (hexDigit 'a' d) = some d.val := by decide
  exact all ⟨d, h⟩

theorem ofHex_concat {cs : List Char} {c : Char} (h : hexValue? c = some d) :
    ofHex (cs ++ [c]) = ofHex cs * 16 + d := by
  simp [ofHex, List.filterMap_append, h]

theorem ofHex_toDigits (n : Nat) : ofHex (Nat.toDigits 16 n) = n := by
  induction n using Nat.strongRecOn with
  | ind n ih =>
    rw [Nat.toDigits_eq_if (by omega)]
    split
    · next h => simp [ofHex, hexValue?_digitChar h]
    · next h =>
      rw [ofHex_concat (hexValue?_digitChar (Nat.mod_lt n (by omega))), ih (n / 16) (by omega)]
      omega

theorem ofHex_zeros (k : Nat) (cs : List Char) : ofHex (List.replicate k '0' ++ cs) = ofHex cs := by
  have zero : hexValue? '0' = some 0 := by decide
  induction k with
  | zero => rfl
  | succ k ih =>
    rw [← ih]
    simp [ofHex, List.replicate_succ, zero]

end ClusterOperator.Text
