import Mathlib.Data.List.Induction
import Mathlib.Data.Nat.Digits.Defs
import ClusterOperator.Proofs.Text.Digits
import ClusterOperator.Proofs.Url.Separators

/-!
# Numeric hosts, written and read

An address that was read fits its kind, and as it is written it is read as the same address.
-/

namespace ClusterOperator.Url

open Text (hexValue?_digitChar isDigit_toDigits head?_toDigits)

variable {base n : Nat} {cs : List Char}

/-! ## Numerals -/

theorem numeral?_concat (base : Nat) (cs : List Char) (c : Char) :
    numeral? base (cs ++ [c]) = match numeral? base cs, Text.hexValue? c with
      | some n, some d => if d < base then some (n * base + d) else none
      | _, _ => none := by
  unfold numeral?
  rw [List.foldl_append]
  rfl

theorem numeral?_toDigits (h : 1 < base) (h' : base ≤ 16) (n : Nat) :
    numeral? base (Nat.toDigits base n) = some n := by
  induction n using Nat.strongRecOn with
  | ind n ih =>
    rw [Nat.toDigits_eq_if h]
    split
    · next hn =>
      have hc := numeral?_concat base [] (Nat.digitChar n)
      rw [hexValue?_digitChar (by omega)] at hc
      simpa [hn, numeral?] using hc
    · next hn =>
      have hm : n % base < base := Nat.mod_lt n (by omega)
      rw [numeral?_concat, ih (n / base) (Nat.div_lt_self (by omega) h),
        hexValue?_digitChar (by omega)]
      simp only [hm, if_true, Nat.div_add_mod']

/-- A numeral stands for less than the base to the power of its length. -/
theorem numeral?_lt (h : numeral? base cs = some n) : n < base ^ cs.length := by
  induction cs using List.reverseRecOn generalizing n with
  | nil =>
    obtain rfl : 0 = n := by simpa [numeral?] using h
    simp
  | append_singleton cs c ih =>
    rw [numeral?_concat] at h
    split at h
    · next m d hm hd =>
      split at h
      · next hlt =>
        obtain rfl := Option.some.inj h
        have hm := ih hm
        rw [List.length_append, List.length_singleton, Nat.pow_succ]
        calc m * base + d < m * base + base := by omega
          _ = (m + 1) * base := by rw [Nat.add_mul, Nat.one_mul]
          _ ≤ base ^ cs.length * base := Nat.mul_le_mul_right base hm
      · cases h
    · cases h

/-- Digits are those of their base. -/
theorem mem_toDigits {base n : Nat} {c : Char} (h : 1 < base) (hc : c ∈ Nat.toDigits base n) :
    ∃ d < base, c = Nat.digitChar d := by
  induction n using Nat.strongRecOn with
  | ind n ih =>
    rw [Nat.toDigits_eq_if h] at hc
    split at hc
    · next hn => exact ⟨n, hn, List.mem_singleton.mp hc⟩
    · next hn =>
      rcases List.mem_append.mp hc with hc | hc
      · exact ih (n / base) (Nat.div_lt_self (by omega) h) hc
      · exact ⟨n % base, Nat.mod_lt n (by omega), List.mem_singleton.mp hc⟩

theorem toList_toString (n : Nat) : (toString n).toList = Nat.toDigits 10 n := Nat.toList_repr

/-! ## IPv4 -/

namespace Ipv4

variable {address : Nat} {name : List Char}

theorem part?_toDigits (n : Nat) : part? (Nat.toDigits 10 n) = some n := by
  have hn : numeral? 10 (Nat.toDigits 10 n) = some n := numeral?_toDigits (by decide) (by decide) n
  rcases Nat.eq_zero_or_pos n with rfl | hpos
  · rfl
  · -- no zero leads the digits, so they are of base ten
    have hz := head?_toDigits hpos
    cases hd : Nat.toDigits 10 n with
    | nil => exact absurd hd Nat.toDigits_ne_nil
    | cons c ds =>
      rw [hd] at hz hn
      have hc : c ≠ '0' := by simpa using hz
      rw [part?.eq_def]
      split
      · next heq => cases heq
      · next heq => exact absurd (List.cons.inj heq).1 hc
      · next heq => exact absurd (List.cons.inj heq).1 hc
      · next heq => exact absurd (List.cons.inj heq).1 hc
      · exact hn

/-- The bytes of an address, the first one first. -/
def bytes (address : Nat) : List Nat := [3, 2, 1, 0].map fun i => address / 256 ^ i % 256

def byteText (b : Nat) : List Char := Nat.toDigits 10 b

theorem text_eq (address : Nat) : text address = joinWith ['.'] ((bytes address).map byteText) := by
  simp only [text, bytes, byteText, List.map_map, toList_toString, Function.comp_def]

theorem dot_not_mem_byteText (b : Nat) : '.' ∉ byteText b := fun h =>
  absurd (isDigit_toDigits b _ h) (by decide)

theorem splitOn_text (address : Nat) :
    splitOn '.' (text address) = (bytes address).map byteText := by
  rw [text_eq]
  refine splitOn_joinWith (by simp [bytes]) fun p hp => ?_
  obtain ⟨b, -, rfl⟩ := List.mem_map.mp hp
  exact dot_not_mem_byteText b

theorem text_ne_nil (address : Nat) : text address ≠ [] := by
  intro h
  have hs := splitOn_text address
  rw [h] at hs
  simp [splitOn, bytes] at hs

theorem parts_text (address : Nat) : parts (text address) = (bytes address).map byteText := by
  have hne : (((bytes address).map byteText).getLast? = some []) = False := by
    simp [bytes, byteText, Nat.toDigits_ne_nil]
  rw [parts, splitOn_text]
  simp only [hne, if_false]

theorem endsInNumber_text (address : Nat) : endsInNumber (text address) = true := by
  have hp := part?_toDigits (address / 256 ^ 0 % 256)
  rw [endsInNumber, parts_text]
  simp only [bytes, byteText, List.map_cons, List.map_nil, List.getLast?_cons_cons,
    List.getLast?_singleton, hp, Option.isSome_some, Bool.or_true]

/-- What bytes that lead come to by their weights, with a last part that fills what they leave.
The weights are kept apart, as powers in a closed term are unfolded one by one. -/
theorem foldl_weights_lt {w : Nat → Nat} (h₀ : w 0 = 16777216) (h₁ : w 1 = 65536) (h₂ : w 2 = 256)
    {leading : List Nat} {last : Nat} (hn : leading.length ≤ 3) (hl : ∀ b ∈ leading, b ≤ 255)
    (h : last < 256 ^ (4 - leading.length)) :
    leading.zipIdx.foldl (fun n x => n + x.1 * w x.2) last < 4294967296 := by
  match leading, hn with
  | [], _ => exact h
  | [a], _ =>
    have hv : [a].zipIdx.foldl (fun n x => n + x.1 * w x.2) last = last + a * w 0 := rfl
    have ha := hl a (by simp)
    have h : last < 16777216 := h
    rw [hv, h₀]
    omega
  | [a, b], _ =>
    have hv : [a, b].zipIdx.foldl (fun n x => n + x.1 * w x.2) last =
        last + a * w 0 + b * w 1 := rfl
    have ha := hl a (by simp)
    have hb := hl b (by simp)
    have h : last < 65536 := h
    rw [hv, h₀, h₁]
    omega
  | [a, b, c], _ =>
    have hv : [a, b, c].zipIdx.foldl (fun n x => n + x.1 * w x.2) last =
        last + a * w 0 + b * w 1 + c * w 2 := rfl
    have ha := hl a (by simp)
    have hb := hl b (by simp)
    have hc := hl c (by simp)
    have h : last < 256 := h
    rw [hv, h₀, h₁, h₂]
    omega

theorem parse?_lt (h : parse? name = some address) : address < 2 ^ 32 := by
  simp only [parse?] at h
  split at h
  · cases h
  next hlen =>
  split at h
  · cases h
  next numbers hm =>
  split at h
  · cases h
  next last hl =>
  split at h
  · cases h
  next hfits =>
  simp only [Bool.or_eq_true, List.any_eq_true, decide_eq_true_eq, not_or, not_exists, not_and,
    Nat.not_lt, Nat.not_le] at hfits
  obtain rfl := Option.some.inj h
  refine foldl_weights_lt (w := fun i => 256 ^ (3 - i)) rfl rfl rfl ?_ hfits.1 hfits.2
  have hnumbers := (mapM_eq_some.mp hm).length_eq
  rw [List.length_dropLast]
  omega

theorem parse?_text (h : address < 2 ^ 32) : parse? (text address) = some address := by
  have hm : (parts (text address)).mapM part? = some (bytes address) := by
    rw [parts_text]
    simp [bytes, byteText, part?_toDigits]
  have hlen : ¬ (parts (text address)).length > 4 := by simp [parts_text, bytes]
  have hlast : (bytes address).getLast? = some (address / 256 ^ 0 % 256) := rfl
  have hany : (bytes address).dropLast.any (fun x => decide (255 < x)) = false := by
    simp [bytes]
    omega
  have hfit : ¬ 256 ^ (4 - (bytes address).dropLast.length) ≤ address / 256 ^ 0 % 256 := by
    simp [bytes]
    omega
  have hfold (w : Nat → Nat) :
      (bytes address).dropLast.zipIdx.foldl (fun n x => n + x.1 * w x.2) (address / 256 ^ 0 % 256) =
        address / 256 ^ 0 % 256 + address / 256 ^ 3 % 256 * w 0 +
          address / 256 ^ 2 % 256 * w 1 + address / 256 ^ 1 % 256 * w 2 := rfl
  have hsum : address / 256 ^ 0 % 256 + address / 256 ^ 3 % 256 * 256 ^ 3 +
      address / 256 ^ 2 % 256 * 256 ^ 2 + address / 256 ^ 1 % 256 * 256 ^ 1 = address := by omega
  simp only [parse?, hm, hlen, if_false, hlast, hany, hfit, decide_false, Bool.or_false,
    Bool.false_eq_true]
  rw [hfold fun i => 256 ^ (3 - i)]
  exact congrArg some hsum

end Ipv4

/-! ## IPv6 -/

namespace Ipv6
variable {g : Nat} {gs : List Nat} {cs rest : List Char} {dotted : Bool}

/-! ### What is read -/

/-- An address has eight groups of two bytes each. -/
def Fits (gs : List Nat) : Prop := ∀ g ∈ gs, g < 65536

theorem group?_lt (h : group? cs = some g) : g < 65536 := by
  unfold group? at h
  split at h
  · cases h
  · next hlen =>
    simp only [Bool.or_eq_true, decide_eq_true_eq, not_or, Nat.not_lt] at hlen
    have hg := numeral?_lt h
    have hpow : 16 ^ cs.length ≤ 16 ^ 4 := Nat.pow_le_pow_right (by decide) hlen.2
    omega

theorem byte?_lt {b : Nat} (h : byte? cs = some b) : b < 256 := by
  unfold byte? at h
  split at h
  · obtain rfl := Option.some.inj h
    decide
  · cases h
  · cases h
  · split at h
    · cases h
    · simpa using (Option.filter_eq_some_iff.mp h).2

theorem fits_dotted (h : dotted? cs = some gs) : Fits gs := by
  unfold dotted? at h
  split at h
  · next a b c d hm =>
    obtain rfl := Option.some.inj h
    have hb : ∀ n ∈ [a, b, c, d], n < 256 := by
      intro n hn
      obtain ⟨p, -, hp⟩ := exists_of_mapM hm hn
      exact byte?_lt hp
    have ha := hb a (by simp)
    have hb' := hb b (by simp)
    have hc := hb c (by simp)
    have hd := hb d (by simp)
    intro g hg
    simp only [List.mem_cons, List.not_mem_nil, or_false] at hg
    omega
  · cases h

theorem fits_groups {parts : List (List Char)} (h : groups? dotted parts = some gs) : Fits gs := by
  induction parts generalizing gs with
  | nil =>
    obtain rfl := Option.some.inj h
    simp [Fits]
  | cons part rest ih =>
    cases rest with
    | nil =>
      rw [groups?] at h
      split at h
      · next g hg =>
        obtain rfl := Option.some.inj h
        simpa [Fits] using group?_lt hg
      · split at h
        · exact fits_dotted h
        · cases h
    | cons p ps =>
      rw [groups?] at h
      · split at h
        · next g gs' hg hgs =>
          obtain rfl := Option.some.inj h
          exact List.forall_mem_cons.mpr ⟨group?_lt hg, ih hgs⟩
        · cases h
      · simp

theorem fits_side (h : side? dotted cs = some gs) : Fits gs := by
  unfold side? at h
  split at h
  · obtain rfl := Option.some.inj h
    simp [Fits]
  · exact fits_groups h

theorem fits_parse (h : parse? cs = some gs) : gs.length = 8 ∧ Fits gs := by
  unfold parse? at h
  split at h
  · split at h
    · next hgs =>
      split at h
      · next hlen =>
        obtain rfl := Option.some.inj h
        exact ⟨hlen, fits_groups hgs⟩
      · cases h
    · cases h
  · next before after hsplit =>
    split at h
    · next head tail hh ht =>
      split at h
      · next hlen =>
        obtain rfl := Option.some.inj h
        refine ⟨by simp; omega, ?_⟩
        intro g hg
        simp only [List.append_assoc, List.mem_append] at hg
        rcases hg with hg | hg | hg
        · exact fits_side hh g hg
        · rw [List.eq_of_mem_replicate hg]
          decide
        · exact fits_side ht g hg
      · cases h
    · cases h

/-! ### What is written -/

theorem colon_not_mem_groupText (g : Nat) : ':' ∉ groupText g := by
  have all : ∀ d : Fin 16, Nat.digitChar d.val ≠ ':' := by decide
  intro h
  obtain ⟨d, hd, hc⟩ := mem_toDigits (by decide) h
  exact all ⟨d, hd⟩ hc.symm

theorem group?_groupText (h : g < 65536) : group? (groupText g) = some g := by
  have hne : (groupText g).isEmpty = false := by simp [groupText, Nat.toDigits_ne_nil]
  have hlen : ¬ 4 < (groupText g).length := by
    have := (Nat.length_toDigits_le_iff (b := 16) (n := g) (k := 4) (by decide) (by decide)).mpr h
    rw [groupText]
    omega
  rw [group?, hne]
  simp only [hlen, decide_false, Bool.or_false, Bool.false_eq_true, if_false]
  exact numeral?_toDigits (by decide) (by decide) g

theorem groups?_map (h : Fits gs) : groups? dotted (gs.map groupText) = some gs := by
  induction gs with
  | nil => rfl
  | cons g gs ih =>
    obtain ⟨hg, hgs⟩ := List.forall_mem_cons.mp h
    have ih := ih hgs
    cases gs with
    | nil => simp [groups?, group?_groupText hg]
    | cons g' gs =>
      rw [List.map_cons] at ih ⊢
      rw [List.map_cons, groups?, group?_groupText hg]
      · rw [ih]
      · simp

theorem splitOn_groupsText (h : gs ≠ []) : splitOn ':' (groupsText gs) = gs.map groupText := by
  refine splitOn_joinWith (by simpa using h) fun p hp hm => ?_
  obtain ⟨g, -, rfl⟩ := List.mem_map.mp hp
  exact colon_not_mem_groupText g hm

theorem groupsText_cons (g : Nat) (h : gs ≠ []) :
    groupsText (g :: gs) = groupText g ++ ':' :: groupsText gs := by
  rw [groupsText, List.map_cons, joinWith_cons (by simpa using h)]
  simp [groupsText]

theorem groupText_cons (g : Nat) : ∃ c cs, groupText g = c :: cs ∧ c ≠ ':' := by
  obtain ⟨c, cs, h⟩ := List.exists_cons_of_ne_nil (Nat.toDigits_ne_nil (b := 16) (n := g))
  exact ⟨c, cs, h, fun hc => colon_not_mem_groupText g (by rw [groupText, h, hc]; simp)⟩

theorem groupsText_head (h : gs ≠ []) : ∃ c cs, groupsText gs = c :: cs ∧ c ≠ ':' := by
  obtain ⟨g, gs, rfl⟩ := List.exists_cons_of_ne_nil h
  obtain ⟨c, cs, hg, hc⟩ := groupText_cons g
  by_cases hgs : gs = []
  · subst hgs
    exact ⟨c, cs, hg, hc⟩
  · exact ⟨c, cs ++ ':' :: groupsText gs, by rw [groupsText_cons g hgs, hg]; rfl, hc⟩

theorem side?_groupsText (h : Fits gs) : side? dotted (groupsText gs) = some gs := by
  by_cases hgs : gs = []
  · subst hgs
    rfl
  · obtain ⟨c, cs, hc, -⟩ := groupsText_head hgs
    have he : (groupsText gs).isEmpty = false := by rw [hc]; rfl
    rw [side?, he, splitOn_groupsText hgs, groups?_map h]
    rfl

/-! ### The gap -/

/-- What a gap cuts apart, with more text before it. -/
def after (cs : List Char) (cut : Option (List Char × List Char)) :
    Option (List Char × List Char) :=
  cut.map fun (front, back) => (cs ++ front, back)

theorem after_nil (cut : Option (List Char × List Char)) : after [] cut = cut := by
  cases cut <;> rfl

theorem after_after (cs ds : List Char) (cut : Option (List Char × List Char)) :
    after cs (after ds cut) = after (cs ++ ds) cut := by
  cases cut <;> simp [after]

theorem splitGap_cons {c : Char} (h : c ≠ ':' ∨ rest.head? ≠ some ':') :
    splitGap (c :: rest) = after [c] (splitGap rest) := by
  rw [splitGap.eq_def]
  split
  · next heq =>
    obtain ⟨rfl, rfl⟩ := List.cons.inj heq
    simp at h
  · next heq =>
    obtain ⟨rfl, rfl⟩ := List.cons.inj heq
    rfl
  · next heq => cases heq

theorem splitGap_append (h : ':' ∉ cs) (rest : List Char) :
    splitGap (cs ++ rest) = after cs (splitGap rest) := by
  induction cs with
  | nil => exact (after_nil _).symm
  | cons c cs ih =>
    have hc : c ≠ ':' := fun hc => h (by simp [hc])
    rw [List.cons_append, splitGap_cons (.inl hc), ih fun hm => h (List.mem_cons_of_mem c hm),
      after_after, List.singleton_append]

/-- Groups hold no gap themselves. -/
theorem splitGap_groupsText (gs : List Nat) (rest : List Char) :
    splitGap (groupsText gs ++ rest) = after (groupsText gs) (splitGap rest) := by
  induction gs with
  | nil => exact (after_nil _).symm
  | cons g gs ih =>
    by_cases hgs : gs = []
    · subst hgs
      exact splitGap_append (colon_not_mem_groupText g) rest
    · obtain ⟨c, cs, hc, hne⟩ := groupsText_head hgs
      have hd : (groupsText gs ++ rest).head? ≠ some ':' := by simpa [hc] using hne
      rw [groupsText_cons g hgs, List.append_assoc, List.cons_append,
        splitGap_append (colon_not_mem_groupText g), splitGap_cons (.inr hd), ih, after_after,
        after_after, List.append_assoc, List.singleton_append]

/-- Zeros that begin with a group are there. -/
theorem zeroRuns_spec {i r : Nat} (h : (zeroRuns gs)[i]? = some r) :
    gs = gs.take i ++ (List.replicate r 0 ++ gs.drop (i + r)) ∧ i + r ≤ gs.length := by
  induction gs generalizing i r with
  | nil => cases h
  | cons g gs ih =>
    cases i with
    | zero =>
      have hr : (if g = 0 then (zeroRuns gs).headD 0 + 1 else 0) = r := Option.some.inj h
      by_cases hg : g = 0
      · subst hg
        rw [if_pos rfl] at hr
        subst hr
        cases hruns : zeroRuns gs with
        | nil => simp
        | cons r rs =>
          obtain ⟨hgs, hlen⟩ := ih (i := 0) (r := r) (by rw [hruns]; rfl)
          simp only [List.take_zero, List.nil_append, Nat.zero_add] at hgs hlen
          refine ⟨?_, by simp; omega⟩
          simp only [List.headD_cons, List.take_zero, List.nil_append, Nat.zero_add,
            List.replicate_succ, List.cons_append, List.drop_succ_cons]
          exact congrArg (0 :: ·) hgs
      · rw [if_neg hg] at hr
        subst hr
        simp
    | succ i =>
      obtain ⟨hgs, hlen⟩ := ih (i := i) (r := r) h
      refine ⟨?_, by simp; omega⟩
      rw [List.take_succ_cons, List.cons_append, Nat.add_right_comm, List.drop_succ_cons]
      exact congrArg (g :: ·) hgs

theorem mem_foldl_max (rs : List Nat) (n : Nat) : rs.foldl max n = n ∨ rs.foldl max n ∈ rs := by
  induction rs generalizing n with
  | nil => exact .inl rfl
  | cons r rs ih =>
    rw [List.foldl_cons]
    rcases ih (max n r) with h | h
    · rcases Nat.le_total r n with hr | hr
      · exact .inl (h.trans (Nat.max_eq_left hr))
      · rw [Nat.max_eq_right hr] at h ⊢
        rw [h]
        exact .inr List.mem_cons_self
    · exact .inr (List.mem_cons_of_mem _ h)

/-- Where the gap is, all that it stands for is zero. -/
theorem gap_spec (h : ¬ (zeroRuns gs).foldl max 0 < 2) :
    ∃ front back, text gs = groupsText front ++ [':', ':'] ++ groupsText back ∧
      gs = front ++ List.replicate ((zeroRuns gs).foldl max 0) 0 ++ back := by
  have hmem := (mem_foldl_max (zeroRuns gs) 0).resolve_left (by omega)
  generalize hl : (zeroRuns gs).foldl max 0 = longest at h hmem ⊢
  have hfind : (zeroRuns gs)[(zeroRuns gs).findIdx (· = longest)]? = some longest := by
    have hlt : (zeroRuns gs).findIdx (· = longest) < (zeroRuns gs).length :=
      List.findIdx_lt_length_of_exists ⟨longest, hmem, by simp⟩
    have hg := List.findIdx_getElem (w := hlt)
    rw [List.getElem?_eq_getElem hlt]
    simpa using hg
  obtain ⟨hgs, -⟩ := zeroRuns_spec hfind
  refine ⟨_, _, ?_, by rw [List.append_assoc]; exact hgs⟩
  rw [text]
  simp only [hl, h, if_false]

theorem parse?_text (hlen : gs.length = 8) (h : Fits gs) : parse? (text gs) = some gs := by
  have hne : gs ≠ [] := by
    rintro rfl
    cases hlen
  by_cases hgap : (zeroRuns gs).foldl max 0 < 2
  · have htext : text gs = groupsText gs := by
      rw [text]
      simp only [hgap, if_true]
    have hsplit : splitGap (groupsText gs) = none := by
      have := splitGap_groupsText gs []
      simpa [splitGap, after] using this
    rw [htext, parse?, hsplit]
    simp only [splitOn_groupsText hne, groups?_map h, hlen, if_true]
  · obtain ⟨front, back, htext, hgs⟩ := gap_spec hgap
    have hsplit : splitGap (text gs) = some (groupsText front, groupsText back) := by
      rw [htext, List.append_assoc, splitGap_groupsText]
      simp [splitGap, after]
    generalize (zeroRuns gs).foldl max 0 = longest at hgap hgs
    subst hgs
    have hf : Fits front := fun g hg => h g (by simp [hg])
    have hb : Fits back := fun g hg => h g (by simp [hg])
    simp only [List.length_append, List.length_replicate] at hlen
    have hlt : front.length + back.length < 8 := by omega
    have hzeros : 8 - (front.length + back.length) = longest := by omega
    rw [parse?, hsplit]
    simp only [side?_groupsText hf, side?_groupsText hb, hlt, if_true, hzeros]

end Ipv6

end ClusterOperator.Url
