import Mathlib.Data.List.Sort
import Mathlib.Tactic.Ring
import ClusterOperator.Url.Punycode

/-!
# Punycode, written and read

What is written of a label is read as that label. The encoder and the decoder go through the same
places: `Agrees` says how far the next place is from the last one that the decoder has filled. No
number on the way grows beyond a word, as labels are not that long.
-/

namespace ClusterOperator.Url.Punycode

variable {bias place weight sum n code target basic : Nat} {rest cs : List Char}

/-! ## Digits -/

theorem digitValue?_digit (h : n < 36) : digitValue? (digit n) = some n := by
  have all : ∀ n : Fin 36, digitValue? (digit n) = some n.val := by decide
  exact all ⟨n, h⟩

/-- The digits of numbers. -/
def isCodeDigit (c : Char) : Bool := ('a' ≤ c && c ≤ 'z') || ('0' ≤ c && c ≤ '9')

theorem isCodeDigit_digit (h : n < 36) : isCodeDigit (digit n) = true := by
  have all : ∀ n : Fin 36, isCodeDigit (digit n) = true := by decide
  exact all ⟨n, h⟩

theorem threshold_pos (bias place : Nat) : 1 ≤ threshold bias place := by
  simp only [threshold]
  omega

theorem threshold_le (bias place : Nat) : threshold bias place ≤ 26 := by
  simp only [threshold]
  omega

theorem writeNumber_ne_nil (bias place n : Nat) : writeNumber bias place n ≠ [] := by
  rw [writeNumber]
  split <;> simp

theorem isCodeDigit_writeNumber (bias place n : Nat) :
    ∀ c ∈ writeNumber bias place n, isCodeDigit c = true := by
  have hl := threshold_le bias place
  induction place, n using writeNumber.induct bias with
  | case1 place n t hlt =>
    rw [writeNumber, if_pos hlt]
    simp only [List.mem_singleton, forall_eq]
    exact isCodeDigit_digit (by simp only [t] at hlt; omega)
  | case2 place n t hlt ih =>
    rw [writeNumber, if_neg hlt]
    have hd : (n - threshold bias place) % (36 - threshold bias place) <
        36 - threshold bias place := Nat.mod_lt _ (by omega)
    intro c hc
    rcases List.mem_cons.mp hc with rfl | hc
    · exact isCodeDigit_digit (by omega)
    · exact ih (threshold_le bias _) c hc

/-! ## Numbers -/

/-- No bias is greater. -/
def mostBias : Nat := 215

/-- No place of a label is as far from its start. -/
def farthest : Nat := 0x110000 * 1001

theorem settle_le {delta k : Nat} (h : delta ≤ 455 * 35 ^ k) :
    settle delta place ≤ place + 36 * k + 35 := by
  induction delta, place using settle.induct generalizing k with
  | case1 delta place hlt ih =>
    rw [settle, if_pos hlt]
    cases k with
    | zero => omega
    | succ k =>
      have hd : delta / 35 ≤ 455 * 35 ^ k := by
        rw [Nat.pow_succ] at h
        omega
      have := ih hd
      omega
  | case2 delta place hlt =>
    rw [settle, if_neg hlt]
    have : 36 * delta / (delta + 38) ≤ 35 := by
      apply Nat.le_of_lt_succ
      rw [Nat.div_lt_iff_lt_mul (by omega)]
      omega
    omega

theorem adapt_le {delta count : Nat} {first : Bool} (h' : delta ≤ farthest) :
    adapt delta count first ≤ mostBias := by
  have hd (d : Nat) (h : d ≤ delta / 2) : settle (d + d / count) 0 ≤ mostBias := by
    have hc : d / count ≤ d := Nat.div_le_self d count
    have hle : d + d / count ≤ 455 * 35 ^ 5 := by
      simp only [farthest] at h'
      omega
    have hs : settle (d + d / count) 0 ≤ 0 + 36 * 5 + 35 := settle_le hle
    simpa [mostBias] using hs
  unfold adapt
  cases first with
  | true => exact hd _ (by simp only [if_true]; omega)
  | false => exact hd _ (by simp)

/-- The weight of the digit after one that is not the last fits in a word: either its threshold is
high, or few digits came before it. -/
theorem weight_lt {k : Nat} (hb : bias ≤ mostBias) (hp : place = 36 * (k + 1)) (hw : weight ≤ 35 ^ k)
    (hn : threshold bias place * weight ≤ farthest) :
    weight * (36 - threshold bias place) < wordSize := by
  by_cases ht : 8 ≤ threshold bias place
  · have hl := threshold_le bias place
    have h : weight * (2 * (36 - threshold bias place)) ≤ weight * (7 * threshold bias place) :=
      Nat.mul_le_mul_left weight (by omega)
    have h₁ : weight * (2 * (36 - threshold bias place)) =
        2 * (weight * (36 - threshold bias place)) := by ring
    have h₂ : weight * (7 * threshold bias place) = 7 * (threshold bias place * weight) := by ring
    simp only [farthest, wordSize] at *
    omega
  · have hk : k ≤ 5 := by
      simp only [threshold, mostBias] at *
      omega
    have hw : weight ≤ 35 ^ 5 := hw.trans (Nat.pow_le_pow_right (by omega) hk)
    calc weight * (36 - threshold bias place) ≤ 35 ^ 5 * 36 :=
          Nat.mul_le_mul hw (Nat.sub_le 36 _)
      _ < wordSize := by decide

/-- A number that was written is read. -/
theorem readNumber_writeNumber {k : Nat} (hb : bias ≤ mostBias) (hp : place = 36 * (k + 1))
    (hw : weight ≤ 35 ^ k) (hs : sum + n * weight ≤ farthest) :
    readNumber bias place weight sum (writeNumber bias place n ++ rest) =
      some (sum + n * weight, rest) := by
  have fits {m : Nat} (h : m ≤ farthest) : ¬ wordSize ≤ m := by
    simp only [farthest, wordSize] at *
    omega
  induction place, n using writeNumber.induct bias generalizing k weight sum with
  | case1 place n t =>
    rename_i hlt
    have hl := threshold_le bias place
    rw [writeNumber, if_pos hlt, List.singleton_append, readNumber,
      digitValue?_digit (by simp only [t] at hlt; omega)]
    simp only [t] at hlt
    simp only [fits hs, hlt, if_true, if_false]
  | case2 place n t hlt =>
    rename_i ih
    simp only [t, Nat.not_lt] at hlt ih
    have hl := threshold_le bias place
    have hd : (n - threshold bias place) % (36 - threshold bias place) <
        36 - threshold bias place := Nat.mod_lt _ (by omega)
    generalize hdigit : threshold bias place +
      (n - threshold bias place) % (36 - threshold bias place) = d at hd
    generalize hnext : (n - threshold bias place) / (36 - threshold bias place) = m at ih
    have hn : n = d + m * (36 - threshold bias place) := by
      have := Nat.div_add_mod (n - threshold bias place) (36 - threshold bias place)
      rw [hnext] at this
      rw [Nat.mul_comm m]
      omega
    have htotal : sum + n * weight = sum + d * weight + m * (weight * (36 - threshold bias place)) := by
      rw [hn]
      ring
    have hsum : sum + d * weight ≤ farthest := by omega
    have hweight : weight * (36 - threshold bias place) < wordSize :=
      weight_lt hb hp hw ((Nat.mul_le_mul_right weight hlt).trans (by omega))
    rw [writeNumber, if_neg (by omega), hdigit, hnext, List.cons_append, readNumber,
      digitValue?_digit (by omega)]
    simp only [fits hsum, show ¬ d < threshold bias place by omega, Nat.not_le.mpr hweight, if_false]
    rw [ih (k := k + 1) (by omega) ?_ (by omega), htotal]
    calc weight * (36 - threshold bias place) ≤ 35 ^ k * 35 :=
          Nat.mul_le_mul hw (by have := threshold_pos bias place; omega)
      _ = 35 ^ (k + 1) := (Nat.pow_succ 35 k).symm

/-! ## The decoder between two numbers -/

/-- What the decoder holds before it reads a number. -/
structure Decoder where
  code : Nat
  place : Nat
  bias : Nat
  label : List Nat

namespace Decoder

variable {d d' d'' : Decoder} {digits : List Char} {result : List Nat}

/-- The digits are read from here, whatever fuel is left over. -/
def Reads (d : Decoder) (digits : List Char) (result : List Nat) : Prop :=
  ∀ fuel, digits.length ≤ fuel →
    decodeFrom fuel d.code d.place d.bias digits d.label = some result

theorem reads_nil (d : Decoder) : d.Reads [] d.label := by
  intro fuel _
  cases fuel <;> rfl

/-- After the number for the place at `spot` of the code point `target`. -/
def filled (d : Decoder) (target spot delta : Nat) : Decoder where
  code := target
  place := spot + 1
  bias := adapt delta (d.label.length + 1) (d.place = 0)
  label := d.label.take spot ++ target :: d.label.drop spot

/-- Code points that are characters. -/
def IsScalar (n : Nat) : Prop := n < 0xD800 ∨ (0xDFFF < n ∧ n < 0x110000)

theorem reads_writeNumber {spot delta : Nat} (hb : d.bias ≤ mostBias) (hs : IsScalar target)
    (hc : d.code ≤ target) (hspot : spot ≤ d.label.length) (hf : d.place + delta ≤ farthest)
    (hway : d.place + delta = (target - d.code) * (d.label.length + 1) + spot)
    (h : (d.filled target spot delta).Reads rest result) :
    d.Reads (writeNumber d.bias 36 delta ++ rest) result := by
  intro fuel hfuel
  cases hw : writeNumber d.bias 36 delta with
  | nil => exact absurd hw (writeNumber_ne_nil d.bias 36 delta)
  | cons c cs =>
    cases fuel with
    | zero => simp [hw] at hfuel
    | succ fuel =>
      have hread : readNumber d.bias 36 1 d.place (c :: (cs ++ rest)) = some (d.place + delta, rest) := by
        have hsum : d.place + delta * 1 ≤ farthest := by omega
        have hr : readNumber d.bias 36 1 d.place (writeNumber d.bias 36 delta ++ rest) =
            some (d.place + delta * 1, rest) :=
          readNumber_writeNumber (k := 0) hb rfl (Nat.le_refl _) hsum
        rw [← List.cons_append, ← hw, hr, Nat.mul_one]
      have hspot' : spot < d.label.length + 1 := by omega
      have hdiv : (d.place + delta) / (d.label.length + 1) = target - d.code := by
        rw [hway, Nat.add_comm, Nat.add_mul_div_right _ _ (by omega), Nat.div_eq_of_lt hspot',
          Nat.zero_add]
      have hmod : (d.place + delta) % (d.label.length + 1) = spot := by
        rw [hway, Nat.add_comm, Nat.add_mul_mod_self_right, Nat.mod_eq_of_lt hspot']
      have hcode : d.code + (target - d.code) = target := by omega
      have hdelta : d.place + delta - d.place = delta := by omega
      have hlen : rest.length ≤ fuel := by
        simp only [hw, List.length_append, List.length_cons] at hfuel
        omega
      rw [List.cons_append, decodeFrom]
      simp only [hread, hdiv, hmod, hcode, hdelta]
      rw [if_pos (show _ ∨ _ from hs)]
      exact h fuel hlen

/-- What was written from `out` to `out'` takes one decoder to the other. -/
def Writes (out : List Char) (d : Decoder) (out' : List Char) (d' : Decoder) : Prop :=
  ∃ digits : List Char, out' = digits.reverse ++ out ∧ (∀ c ∈ digits, isCodeDigit c = true) ∧
    ∀ rest result, d'.Reads rest result → d.Reads (digits ++ rest) result

theorem Writes.refl (out : List Char) (d : Decoder) : Writes out d out d :=
  ⟨[], rfl, by simp, fun _ _ h => h⟩

theorem Writes.trans {out out' out'' : List Char} (h : Writes out d out' d')
    (h' : Writes out' d' out'' d'') : Writes out d out'' d'' := by
  obtain ⟨ds, rfl, hds, hr⟩ := h
  obtain ⟨ds', rfl, hds', hr'⟩ := h'
  refine ⟨ds ++ ds', by simp, fun c hc => ?_, fun rest result hres => ?_⟩
  · rcases List.mem_append.mp hc with hc | hc
    · exact hds c hc
    · exact hds' c hc
  · rw [List.append_assoc]
    exact hr _ _ (hr' _ _ hres)

end Decoder

/-! ## The encoder and the decoder -/

open Decoder

/-- What was written leads the decoder to `d`; the next place is the one at `spot` of `target`. -/
structure Agrees (basic : Nat) (e : Encoder) (d : Decoder) (target spot : Nat) : Prop where
  count : e.count = d.label.length
  bias : e.bias = d.bias
  way : d.place + e.delta = (target - d.code) * (e.count + 1) + spot
  ahead : d.code ≤ target
  first : e.count = basic ↔ d.place = 0
  basic_le : basic ≤ e.count
  bias_le : e.bias ≤ mostBias

/-- The characters up to a code point, and those below it. -/
def upTo (target : Nat) (cs : List Nat) : List Nat := cs.filter (· ≤ target)

def below (target : Nat) (cs : List Nat) : List Nat := cs.filter (· < target)

theorem upTo_eq_below (target : Nat) (cs : List Nat) : upTo target cs = below (target + 1) cs := by
  simp only [upTo, below, Nat.lt_succ_iff]

variable {e : Encoder} {d : Decoder} {label codes : List Nat}

theorem Agrees.write (h : Agrees basic e d target n) (hs : IsScalar target) (hn : n ≤ d.label.length)
    (hl : d.label.length ≤ 1000) :
    Agrees basic
        ⟨(writeNumber e.bias 36 e.delta).reverse ++ e.out, 0,
          adapt e.delta (e.count + 1) (e.count = basic), e.count + 1⟩
        (d.filled target n e.delta) target (n + 1) ∧
      Writes e.out d ((writeNumber e.bias 36 e.delta).reverse ++ e.out)
        (d.filled target n e.delta) := by
  have hfar : d.place + e.delta ≤ farthest := by
    have ht : target - d.code ≤ 0x10FFFF := by
      unfold IsScalar at hs
      omega
    have hmul : (target - d.code) * (e.count + 1) ≤ 0x10FFFF * 1001 :=
      Nat.mul_le_mul ht (by rw [h.count]; omega)
    rw [h.way]
    simp only [farthest]
    omega
  have hfirst : decide (e.count = basic) = decide (d.place = 0) := decide_eq_decide.mpr h.first
  refine ⟨⟨?_, ?_, ?_, Nat.le_refl _, ?_, ?_, ?_⟩, _, rfl, isCodeDigit_writeNumber _ _ _, ?_⟩
  · simp only [filled, List.length_append, List.length_take, List.length_cons, List.length_drop,
      h.count]
    omega
  · simp only [filled, hfirst]
    rw [h.count]
  · simp [filled]
  · have := h.basic_le
    simp only [filled]
    omega
  · exact Nat.le_succ_of_le h.basic_le
  · exact adapt_le (by omega)
  · intro rest result hres
    rw [h.bias]
    exact reads_writeNumber (h.bias ▸ h.bias_le) hs h.ahead hn hfar (by rw [← h.count]; exact h.way) hres

/-- One code point is written at all its places. `ps` has been gone through. -/
theorem encodeCode_agrees {ps cs : List Nat} (hs : IsScalar target) (hl : (ps ++ cs).length ≤ 1000)
    (hd : d.label = upTo target ps ++ below target cs)
    (h : Agrees basic e d target (upTo target ps).length) :
    ∃ d', d'.label = upTo target (ps ++ cs) ∧
      Agrees basic (encodeCode basic target cs e) d' target (upTo target (ps ++ cs)).length ∧
      Writes e.out d (encodeCode basic target cs e).out d' := by
  induction cs generalizing ps e d with
  | nil => exact ⟨d, by simpa [below] using hd, by simpa [encodeCode] using h, Writes.refl _ _⟩
  | cons c cs ih =>
    have hl' : (ps ++ [c] ++ cs).length ≤ 1000 := by simpa using hl
    have happ : ps ++ c :: cs = ps ++ [c] ++ cs := by simp
    rw [happ, encodeCode]
    rcases Nat.lt_trichotomy c target with hlt | heq | hgt
    · -- the place after a smaller character is one further
      rw [if_pos hlt]
      have hup : upTo target (ps ++ [c]) = upTo target ps ++ [c] := by
        simp [upTo, List.filter_append, Nat.le_of_lt hlt]
      refine ih (d := d) (e := { e with delta := e.delta + 1 }) hl' ?_
        ⟨h.count, h.bias, ?_, h.ahead, h.first, h.basic_le, h.bias_le⟩
      · simp [hd, hup, below, hlt]
      · have := h.way
        simp only [hup, List.length_append, List.length_singleton]
        omega
    · -- the character itself is written
      subst heq
      rw [if_neg (Nat.lt_irrefl c), if_pos rfl]
      have hup : upTo c (ps ++ [c]) = upTo c ps ++ [c] := by simp [upTo, List.filter_append]
      have hbelow : below c (c :: cs) = below c cs := by simp [below]
      have hlen : d.label.length ≤ 1000 := by
        have h₁ := List.length_filter_le (· ≤ c) ps
        have h₂ := List.length_filter_le (· < c) cs
        simp only [List.length_append, List.length_cons] at hl
        rw [hd, hbelow, List.length_append, upTo, below]
        omega
      have hn : (upTo c ps).length ≤ d.label.length := by simp [hd]
      obtain ⟨ha, hw⟩ := h.write hs hn hlen
      have hlabel : (d.filled c (upTo c ps).length e.delta).label =
          upTo c (ps ++ [c]) ++ below c cs := by
        simp only [filled, hd, hbelow, hup, List.take_left', List.drop_left', List.append_assoc,
          List.singleton_append]
      obtain ⟨d', hd', ha', hw'⟩ := ih hl' hlabel (by simpa [hup] using ha)
      exact ⟨d', hd', ha', hw.trans hw'⟩
    · -- a greater character is not there yet
      rw [if_neg (by omega), if_neg (by omega)]
      have hup : upTo target (ps ++ [c]) = upTo target ps := by
        simp [upTo, List.filter_append, hgt]
      refine ih hl' ?_ (by simpa [hup] using h)
      simp [hd, hup, below, Nat.not_lt.mpr (Nat.le_of_lt hgt)]

/-- The rest of the way to a code point goes through all places. -/
theorem Agrees.goTo {reached code : Nat} (h : Agrees basic e d reached 0) (hle : reached ≤ code) :
    Agrees basic { e with delta := e.delta + (code - reached) * (e.count + 1) } d code 0 := by
  refine ⟨h.count, h.bias, ?_, h.ahead.trans hle, h.first, h.basic_le, h.bias_le⟩
  have hsplit : (code - d.code) * (e.count + 1) =
      (reached - d.code) * (e.count + 1) + (code - reached) * (e.count + 1) := by
    have hahead := h.ahead
    rw [← Nat.add_mul]
    congr 1
    omega
  have := h.way
  dsimp only
  omega

/-- After all places of a code point comes the first place of the next one. -/
theorem Agrees.next {code : Nat} (h : Agrees basic e d code d.label.length) :
    Agrees basic { e with delta := e.delta + 1 } d (code + 1) 0 := by
  refine ⟨h.count, h.bias, ?_, h.ahead.trans (Nat.le_succ code), h.first, h.basic_le, h.bias_le⟩
  have hway := h.way
  have hcount := h.count
  have hahead := h.ahead
  rw [show code + 1 - d.code = code - d.code + 1 by omega, Nat.add_mul, Nat.one_mul]
  dsimp only
  omega

/-- The code points of a label from the one that was reached on. -/
def Left (reached : Nat) (label codes : List Nat) : Prop :=
  codes.Pairwise (· < ·) ∧ ∀ c, c ∈ codes ↔ c ∈ label ∧ reached ≤ c

theorem Left.tail {reached code : Nat} (h : Left reached label (code :: codes)) :
    Left (code + 1) label codes := by
  obtain ⟨hsort, hmem⟩ := h
  obtain ⟨hless, hsort⟩ := List.pairwise_cons.mp hsort
  have hreached := ((hmem code).mp List.mem_cons_self).2
  refine ⟨hsort, fun c => ⟨fun hc => ?_, ?_⟩⟩
  · exact ⟨((hmem c).mp (List.mem_cons_of_mem _ hc)).1, hless c hc⟩
  · rintro ⟨hc, hlt⟩
    have hm := (hmem c).mpr ⟨hc, by omega⟩
    exact (List.mem_cons.mp hm).resolve_left (by omega)

/-- No character lies between the code point that was reached and the next one. -/
theorem Left.below_eq {reached code : Nat} (h : Left reached label (code :: codes)) :
    below reached label = below code label := by
  obtain ⟨hcode, hreached⟩ := (h.2 code).mp List.mem_cons_self
  refine List.filter_congr fun c hc => decide_eq_decide.mpr ⟨fun hlt => by omega, fun hlt => ?_⟩
  by_contra hn
  rcases List.mem_cons.mp ((h.2 c).mpr ⟨hc, by omega⟩) with rfl | hm
  · omega
  · have := (List.pairwise_cons.mp h.1).1 c hm
    omega

theorem Left.below_nil {reached : Nat} (h : Left reached label []) : below reached label = label := by
  rw [below, List.filter_eq_self]
  intro c hc
  have hn := (h.2 c).mpr.mt List.not_mem_nil
  rw [decide_eq_true_eq]
  by_contra hlt
  exact hn ⟨hc, by omega⟩

/-- The code points that are left are written, smaller ones first. -/
theorem encodeCodes_writes {reached : Nat} (hl : label.length ≤ 1000) (hs : ∀ c ∈ label, IsScalar c)
    (hleft : Left reached label codes) (hd : d.label = below reached label)
    (h : Agrees basic e d reached 0) :
    ∃ d', d'.label = label ∧ Writes e.out d (encodeCodes basic label reached codes e).out d' := by
  induction codes generalizing reached e d with
  | nil => exact ⟨d, hd.trans hleft.below_nil, Writes.refl _ _⟩
  | cons code codes ih =>
    obtain ⟨hcode, hreached⟩ := (hleft.2 code).mp List.mem_cons_self
    have hstart : d.label = upTo code [] ++ below code label := by
      simpa [upTo, ← hleft.below_eq] using hd
    obtain ⟨d₁, hd₁, ha₁, hw₁⟩ :=
      encodeCode_agrees (hs code hcode) (by simpa using hl) hstart (h.goTo hreached)
    rw [List.nil_append] at hd₁ ha₁
    rw [← hd₁] at ha₁
    obtain ⟨d', hd', hw'⟩ := ih hleft.tail (by rw [hd₁, upTo_eq_below]) ha₁.next
    exact ⟨d', hd', hw₁.trans hw'⟩

/-! ## Whole labels -/

theorem nodup_eraseDups (cs : List Nat) : cs.eraseDups.Nodup := by
  induction hn : cs.length using Nat.strongRecOn generalizing cs with
  | ind n ih =>
    cases cs with
    | nil => simp
    | cons c cs =>
      have hlen : (cs.filter fun b => !b == c).length < n := by
        have := List.length_filter_le (fun b => !b == c) cs
        simp only [List.length_cons] at hn
        omega
      rw [List.eraseDups_cons, List.nodup_cons]
      exact ⟨by simp, ih _ hlen _ rfl⟩

theorem pairwise_codes (label : List Nat) :
    ((label.filter fun c => 0x80 ≤ c).eraseDups.mergeSort).Pairwise (· < ·) := by
  have hle : ((label.filter fun c => 0x80 ≤ c).eraseDups.mergeSort).Pairwise (· ≤ ·) := by
    simpa using @List.pairwise_mergeSort _ (fun a b : Nat => decide (a ≤ b))
      (fun a b c => by simpa using Nat.le_trans) (fun a b => by simpa using Nat.le_total a b)
      (label.filter fun c => 0x80 ≤ c).eraseDups
  have hnodup : ((label.filter fun c => 0x80 ≤ c).eraseDups.mergeSort).Pairwise (· ≠ ·) :=
    (List.mergeSort_perm _ _).nodup_iff.mpr (nodup_eraseDups _)
  exact (hle.and hnodup).imp fun h => Nat.lt_of_le_of_ne h.1 h.2

/-- The characters of ASCII, and the hyphen that ends them. -/
def plainPart (label : List Nat) : List Char :=
  (below 0x80 label).map Char.ofNat ++ if (below 0x80 label).isEmpty then [] else ['-']

/-- What is written of a label is the characters of ASCII, and digits that lead from these to all
of it. -/
theorem encode_eq (hl : label.length ≤ 1000) (hs : ∀ c ∈ label, IsScalar c) :
    ∃ digits : List Char, encode label = plainPart label ++ digits ∧
      (∀ c ∈ digits, isCodeDigit c = true) ∧
      Reads ⟨0x80, 0, initialBias, below 0x80 label⟩ digits label := by
  have hstart : Agrees (below 0x80 label).length
      ⟨[], 0, initialBias, (below 0x80 label).length⟩
      ⟨0x80, 0, initialBias, below 0x80 label⟩ 0x80 0 :=
    ⟨rfl, rfl, by simp, Nat.le_refl _, by simp, Nat.le_refl _, show initialBias ≤ mostBias by decide⟩
  have hmem (c : Nat) : c ∈ (label.filter fun c => 0x80 ≤ c).eraseDups.mergeSort ↔
      c ∈ label ∧ 0x80 ≤ c := by
    simp
  obtain ⟨d', hd', digits, hout, hdigits, hreads⟩ :=
    encodeCodes_writes hl hs ⟨pairwise_codes label, hmem⟩ rfl hstart
  refine ⟨digits, ?_, hdigits, ?_⟩
  · simp only [encode]
    rw [show (label.filter fun c => decide (c < 0x80)) = below 0x80 label from rfl, hout]
    simp [plainPart]
  · have := hreads [] label (hd' ▸ reads_nil d')
    rwa [List.append_nil] at this

/-- The digits of a label with a character outside ASCII. -/
theorem digits_ne_nil {digits : List Char} (hx : ∃ c ∈ label, 0x80 ≤ c)
    (h : Reads ⟨0x80, 0, initialBias, below 0x80 label⟩ digits label) : digits ≠ [] := by
  rintro rfl
  have hb : below 0x80 label = label := by simpa [decodeFrom] using h 0 (Nat.le_refl _)
  obtain ⟨c, hc, hle⟩ := hx
  rw [← hb] at hc
  have := (List.mem_filter.mp hc).2
  simp only [decide_eq_true_eq] at this
  omega

theorem isCodeDigit_ne_hyphen {c : Char} (h : isCodeDigit c = true) : c ≠ '-' := by
  rintro rfl
  exact absurd h (by decide)

theorem toNat_ofNat (h : IsScalar n) : (Char.ofNat n).toNat = n := by
  have hv : n.isValidChar := h
  rw [Char.ofNat, dif_pos hv]
  exact UInt32.toNat_ofNatLT

theorem isScalar_of_ascii (h : n < 0x80) : IsScalar n := .inl (by omega)

theorem map_toNat_ofNat (h : ∀ n ∈ label, IsScalar n) :
    (label.map Char.ofNat).map Char.toNat = label := by
  rw [List.map_map]
  conv_rhs => rw [← List.map_id label]
  exact List.map_congr_left fun n hn => toNat_ofNat (h n hn)

theorem takeWhile_digits {digits : List Char} (hd : ∀ c ∈ digits, isCodeDigit c = true)
    (label : List Nat) :
    ((plainPart label ++ digits).reverse.takeWhile (· ≠ '-')).reverse = digits := by
  have hall : ∀ c ∈ digits.reverse, decide (c ≠ '-') = true := by
    intro c hc
    simpa using isCodeDigit_ne_hyphen (hd c (List.mem_reverse.mp hc))
  rw [List.reverse_append, List.takeWhile_append_of_pos hall]
  unfold plainPart
  cases hb : below 0x80 label with
  | nil => simp
  | cons b bs => simp

/-- What is written of a label is read as that label. -/
theorem decode?_encode (hl : label.length ≤ 1000) (hs : ∀ c ∈ label, IsScalar c) :
    decode? (encode label) = some label := by
  obtain ⟨digits, heq, hdigits, hreads⟩ := encode_eq hl hs
  have htake := takeWhile_digits hdigits label
  have hread := hreads digits.length (Nat.le_refl _)
  unfold decode?
  rw [heq]
  simp only [htake]
  cases hb : below 0x80 label with
  | nil =>
    have hp : plainPart label = [] := by simp [plainPart, hb]
    rw [hb] at hread
    simpa [hp] using hread
  | cons b bs =>
    have hp : plainPart label = (b :: bs).map Char.ofNat ++ ['-'] := by simp [plainPart, hb]
    have hbasic : (plainPart label ++ digits).take
        ((plainPart label ++ digits).length - digits.length - 1) = (b :: bs).map Char.ofNat := by
      have hlen : (plainPart label ++ digits).length - digits.length - 1 =
          ((b :: bs).map Char.ofNat).length := by
        simp only [hp, List.length_append, List.length_singleton]
        omega
      rw [hlen, hp, List.append_assoc, List.take_left' rfl]
    have hmap : ((below 0x80 label).map Char.ofNat).map Char.toNat = below 0x80 label :=
      map_toNat_ofNat fun n hn => hs n (List.mem_of_mem_filter hn)
    rw [hb] at hmap hread
    rw [hbasic, if_neg (by simp), hmap]
    exact hread

theorem mem_encode {c : Char} (hl : label.length ≤ 1000) (hs : ∀ c ∈ label, IsScalar c)
    (hc : c ∈ encode label) :
    isCodeDigit c = true ∨ c = '-' ∨ ∃ n ∈ label, n < 0x80 ∧ c = Char.ofNat n := by
  obtain ⟨digits, heq, hdigits, -⟩ := encode_eq hl hs
  rw [heq, plainPart, List.append_assoc] at hc
  rcases List.mem_append.mp hc with hc | hc
  · obtain ⟨n, hn, rfl⟩ := List.mem_map.mp hc
    obtain ⟨hm, hlt⟩ := List.mem_filter.mp hn
    exact .inr (.inr ⟨n, hm, by simpa using hlt, rfl⟩)
  · rcases List.mem_append.mp hc with hc | hc
    · split at hc
      · cases hc
      · exact .inr (.inl (List.mem_singleton.mp hc))
    · exact .inl (hdigits c hc)

theorem getLast?_encode (hl : label.length ≤ 1000) (hs : ∀ c ∈ label, IsScalar c)
    (hx : ∃ c ∈ label, 0x80 ≤ c) :
    ∃ c, (encode label).getLast? = some c ∧ isCodeDigit c = true := by
  obtain ⟨digits, heq, hdigits, hreads⟩ := encode_eq hl hs
  have hne := digits_ne_nil hx hreads
  refine ⟨digits.getLast hne, ?_, hdigits _ (List.getLast_mem hne)⟩
  rw [heq, List.getLast?_append, List.getLast?_eq_some_getLast hne]
  rfl

/-! ## What is read -/

section
variable {label result : List Nat} {n fuel code place bias : Nat} {cs : List Char}

theorem mem_insert (spot code : Nat) (label : List Nat) :
    n ∈ label.take spot ++ code :: label.drop spot ↔ n = code ∨ n ∈ label := by
  have hsplit : n ∈ label ↔ n ∈ label.take spot ∨ n ∈ label.drop spot := by
    rw [← List.mem_append, List.take_append_drop]
  rw [List.mem_append, List.mem_cons, hsplit]
  tauto

theorem decodeFrom_cons {c : Char}
    (h : decodeFrom (fuel + 1) code place bias (c :: cs) label = some result) :
    ∃ code' place' bias' cs' spot, code ≤ code' ∧ code' < 0x110000 ∧
      decodeFrom fuel code' place' bias' cs' (label.take spot ++ code' :: label.drop spot) =
        some result := by
  rw [decodeFrom] at h
  split at h
  · cases h
  · next sum rest hread =>
    simp only at h
    split at h
    · next hs => exact ⟨_, _, _, _, _, Nat.le_add_right _ _, by omega, h⟩
    · cases h

theorem mem_of_mem_label (h : decodeFrom fuel code place bias cs label = some result)
    (hn : n ∈ label) : n ∈ result := by
  induction fuel generalizing code place bias cs label with
  | zero =>
    cases cs with
    | nil =>
      obtain rfl := Option.some.inj h
      exact hn
    | cons c cs => cases h
  | succ fuel ih =>
    cases cs with
    | nil =>
      obtain rfl := Option.some.inj h
      exact hn
    | cons c cs =>
      obtain ⟨code', _, _, _, spot, _, _, h⟩ := decodeFrom_cons h
      exact ih h ((mem_insert spot code' label).mpr (.inr hn))

/-- What the digits describe is beyond ASCII. -/
theorem mem_decodeFrom (hc : 0x80 ≤ code) (h : decodeFrom fuel code place bias cs label = some result)
    (hn : n ∈ result) : n ∈ label ∨ (0x80 ≤ n ∧ n < 0x110000) := by
  induction fuel generalizing code place bias cs label with
  | zero =>
    cases cs with
    | nil =>
      obtain rfl := Option.some.inj h
      exact .inl hn
    | cons c cs => cases h
  | succ fuel ih =>
    cases cs with
    | nil =>
      obtain rfl := Option.some.inj h
      exact .inl hn
    | cons c cs =>
      obtain ⟨code', _, _, _, spot, hle, hlt, h⟩ := decodeFrom_cons h
      rcases ih (by omega) h with hm | hm
      · rcases (mem_insert spot code' label).mp hm with rfl | hm
        · exact .inr ⟨by omega, hlt⟩
        · exact .inl hm
      · exact .inr hm

theorem exists_decodeFrom (hc : 0x80 ≤ code) (hcs : cs ≠ [])
    (h : decodeFrom fuel code place bias cs label = some result) : ∃ n ∈ result, 0x80 ≤ n := by
  obtain ⟨c, cs, rfl⟩ := List.exists_cons_of_ne_nil hcs
  cases fuel with
  | zero => cases h
  | succ fuel =>
    obtain ⟨code', _, _, _, spot, hle, _, h⟩ := decodeFrom_cons h
    exact ⟨code', mem_of_mem_label h ((mem_insert spot code' label).mpr (.inl rfl)), by omega⟩

/-- A character that is read stood there, or it is beyond ASCII. -/
theorem mem_decode? (h : decode? cs = some label) (hn : n ∈ label) :
    (∃ c ∈ cs, n = c.toNat) ∨ (0x80 ≤ n ∧ n < 0x110000) := by
  unfold decode? at h
  simp only at h
  split at h
  · cases h
  · rcases mem_decodeFrom (Nat.le_refl _) h hn with hm | hm
    · obtain ⟨c, hc, rfl⟩ := List.mem_map.mp hm
      exact .inl ⟨c, List.mem_of_mem_take hc, rfl⟩
    · exact .inr hm

/-- Digits stand at the end, unless a hyphen does. -/
theorem exists_decode? (h : decode? cs = some label) (hne : cs ≠ [])
    (hlast : cs.getLast? ≠ some '-') : ∃ n ∈ label, 0x80 ≤ n := by
  unfold decode? at h
  simp only at h
  split at h
  · cases h
  · refine exists_decodeFrom (Nat.le_refl _) ?_ h
    rw [ne_eq, List.reverse_eq_nil_iff]
    obtain ⟨c, cs', hcs⟩ := List.exists_cons_of_ne_nil (fun he => hne (List.reverse_eq_nil_iff.mp he))
    have hc : c ≠ '-' := by
      rw [← List.head?_reverse, hcs] at hlast
      simpa using hlast
    rw [hcs]
    simp [hc]

end

end ClusterOperator.Url.Punycode
