import ClusterOperator.Proofs.Text.Table
import ClusterOperator.Text.Composed

/-!
# Taking characters apart

A character stands for its parts, of which none stands for others. What two characters make stands
for the parts of the first one and for the second one. Both go back to what the table of composed
characters holds, which is checked row by row.
-/

namespace ClusterOperator.Text

variable {a b c e n k : Nat}

/-! ## The table -/

/-- Whether a character holds so many marks at most. -/
def marksWithin (pairs : Tree) : (marks : Nat) → Nat → Bool
  | 0, n => (pairs.find? n).isNone
  | marks + 1, n =>
    match pairs.find? n with
    | none => true
    | some r =>
      match r.values with
      | a :: _ => marksWithin pairs marks a
      | [] => false

/-- The characters of Chinese. -/
def isIdeograph (n : Nat) : Bool := 0x4E00 ≤ n && n ≤ 0x9FFF

/-- Whether a row is of two values for one code point, where the first value is no mark and holds
no more than two, and the second one stands for itself, is not from the first blocks and is no
ideograph. -/
def checkPair (classes pairs : Tree) (r : Row) : Bool :=
  match r.gift, r.values with
  | .values, [a, b] =>
    r.first = r.last && !Hangul.isSyllable r.first && !Hangul.isSyllable a &&
      !Hangul.isSyllable b && !isIdeograph b && 0x2E < a && 0x300 ≤ b && (classes.find? a).isNone &&
      (pairs.find? b).isNone && marksWithin pairs 2 a
  | _, _ => false

def checkComposites (classes rows : List Row) : Bool :=
  Table.checkClear 0x1100 0x11FF rows && Table.checkClear 0x1100 0x11FF classes &&
    Table.checkClear 0xAC00 0xD7A3 classes && Table.checkClear 0x4E00 0x9FFF rows &&
    Table.checkClear 0x4E00 0x9FFF classes &&
    checkTree 0 9 classes fun classes =>
      checkTree 0x80 10 rows fun pairs => rows.all (checkPair classes pairs)

set_option maxRecDepth 30000 in
theorem composites_checked : checkComposites combiningClasses.toList composites.toList = true := by
  have read (cs ds : List Char)
      (h : checkComposites (Table.rowsFrom none cs) (Table.rowsFrom none ds) = true) :
      checkComposites (Table.ofText (String.ofList cs)).toList
        (Table.ofText (String.ofList ds)).toList = true := by
    rw [Table.toList_ofText, Table.toList_ofText]
    exact h
  -- the texts are told to be lists of characters, so that these alone are computed with
  unfold composites combiningClasses
  apply read
  decide +kernel

/-- The two characters have a composed form, other than a syllable of Hangul. -/
def Composes (a b c : Nat) : Prop := (⟨c, c, .values, [a, b]⟩ : Row) ∈ composites.toList

/-- A character that stands for itself. -/
structure Atom (n : Nat) : Prop where
  noSyllable : Hangul.isSyllable n = false
  alone : composites.value? n = none

/-- A character with so many marks at most. -/
inductive HoldsMarks : Nat → Nat → Prop
  | atom {k n : Nat} (h : Atom n) : HoldsMarks k n
  | pair {k a b n : Nat} (h : Composes a b n) (ha : HoldsMarks k a) : HoldsMarks (k + 1) n

/-- What is known of two characters with a composed form. -/
structure Composes.Facts (a b c : Nat) : Prop where
  high : 0x80 ≤ c
  noSyllable : Hangul.isSyllable c = false
  starter : combiningClass a = 0
  afterDot : 0x2E < a
  second : Atom b
  noIdeograph : isIdeograph b = false
  secondHigh : 0x300 ≤ b
  first : HoldsMarks 2 a

theorem combiningClass_eq_zero (h : combiningClasses.row? n = none) : combiningClass n = 0 := by
  unfold combiningClass
  rw [Table.value?_eq_none h]
  split <;> rfl

theorem eq_of_checkPair {classes pairs : Tree} {r : Row} (h : checkPair classes pairs r = true) :
    ∃ a b c, r = ⟨c, c, .values, [a, b]⟩ ∧ Hangul.isSyllable c = false ∧
      Hangul.isSyllable a = false ∧ Hangul.isSyllable b = false ∧ isIdeograph b = false ∧
      0x2E < a ∧ 0x300 ≤ b ∧
      classes.find? a = none ∧ pairs.find? b = none ∧ marksWithin pairs 2 a = true := by
  obtain ⟨c, c', gift, values⟩ := r
  unfold checkPair at h
  split at h
  · next a b hg hv =>
    simp only [Bool.and_eq_true, decide_eq_true_eq, Bool.not_eq_true', Option.isNone_iff_eq_none]
      at h hg hv
    obtain ⟨⟨⟨⟨⟨⟨⟨⟨⟨rfl, hc⟩, ha⟩, hb⟩, hi⟩, hd⟩, hh⟩, hm⟩, hw⟩, ht⟩ := h
    subst hg hv
    exact ⟨a, b, c, rfl, hc, ha, hb, hi, hd, hh, hm, hw, ht⟩
  · cases h

theorem holdsMarks_of_marksWithin {pairs : Tree} (hfind : ∀ n, pairs.find? n = composites.row? n)
    (hrow : ∀ r ∈ composites.toList, ∃ a b c, r = ⟨c, c, .values, [a, b]⟩ ∧
      Hangul.isSyllable a = false)
    (hn : Hangul.isSyllable n = false) (h : marksWithin pairs k n = true) : HoldsMarks k n := by
  have alone {n : Nat} (h : pairs.find? n = none) : composites.value? n = none :=
    Table.value?_eq_none (hfind n ▸ h)
  induction k generalizing n with
  | zero => exact .atom ⟨hn, alone (Option.isNone_iff_eq_none.mp h)⟩
  | succ k ih =>
    rw [marksWithin] at h
    split at h
    · next hf => exact .atom ⟨hn, alone hf⟩
    · next r hf =>
      obtain ⟨hm, hc⟩ := Table.row?_covers (hfind n ▸ hf)
      obtain ⟨a, b, c, rfl, ha⟩ := hrow r hm
      obtain rfl : c = n := Nat.le_antisymm hc.1 hc.2
      exact .pair hm (ih ha h)

/-- What the check tells of the tables. -/
theorem composites_facts :
    composites.InOrder ∧
    (∀ r ∈ composites.toList, ∃ a b c, r = ⟨c, c, .values, [a, b]⟩ ∧ Composes.Facts a b c) ∧
    (∀ n, 0x1100 ≤ n → n ≤ 0x11FF → composites.value? n = none ∧ combiningClass n = 0) ∧
    (∀ n, 0xAC00 ≤ n → n ≤ 0xD7A3 → combiningClass n = 0) ∧
    (∀ n, isIdeograph n = true → composites.value? n = none ∧ combiningClass n = 0) ∧
    ∀ n, n < 0x80 → composites.value? n = none := by
  have hcheck := composites_checked
  simp only [checkComposites, Bool.and_eq_true] at hcheck
  obtain ⟨⟨⟨⟨⟨hletters, hletters'⟩, hsyllables⟩, hideographs⟩, hideographs'⟩, hclasses⟩ := hcheck
  obtain ⟨-, -, classes, hclass, hpairs⟩ := checkTree_spec hclasses
  obtain ⟨horder, hfloor, pairs, hpair, hrows⟩ := checkTree_spec hpairs
  have hrow := fun r hr => eq_of_checkPair (List.all_eq_true.mp hrows r hr)
  refine ⟨horder, fun r hr => ?_, fun n hl hh => ⟨?_, ?_⟩, fun n hl hh => ?_, fun n hn => ?_,
    fun n hn => ?_⟩
  · have hr' := hfloor r hr
    obtain ⟨a, b, c, rfl, hc, ha, hb, hi, hd, hh, hm, hw, ht⟩ := hrow r hr
    refine ⟨a, b, c, rfl, hr', hc, combiningClass_eq_zero (hclass a ▸ hm), hd,
      ⟨hb, Table.value?_eq_none (hpair b ▸ hw)⟩, hi, hh, ?_⟩
    refine holdsMarks_of_marksWithin hpair (fun r hr => ?_) ha ht
    obtain ⟨a, b, c, h, -, ha, -⟩ := hrow r hr
    exact ⟨a, b, c, h, ha⟩
  · exact Table.value?_eq_none (Table.row?_of_checkClear hletters hl hh)
  · exact combiningClass_eq_zero (Table.row?_of_checkClear hletters' hl hh)
  · exact combiningClass_eq_zero (Table.row?_of_checkClear hsyllables hl hh)
  · simp only [isIdeograph, Bool.and_eq_true, decide_eq_true_eq] at hn
    exact ⟨Table.value?_eq_none (Table.row?_of_checkClear hideographs hn.1 hn.2),
      combiningClass_eq_zero (Table.row?_of_checkClear hideographs' hn.1 hn.2)⟩
  · refine Table.value?_eq_none (Table.row?_eq_none fun r hr hc => ?_)
    have := hfloor r hr
    have := hc.1
    omega

theorem Composes.facts (h : Composes a b c) : Facts a b c := by
  obtain ⟨a', b', c', heq, hf⟩ := composites_facts.2.1 _ h
  cases heq
  exact hf

theorem Composes.value? (h : Composes a b c) : composites.value? c = some [a, b] := by
  rw [Table.value?_of_covers composites_facts.1 h ⟨Nat.le_refl c, Nat.le_refl c⟩]
  rfl

theorem value?_composites (n : Nat) :
    composites.value? n = none ∨ ∃ a b, Composes a b n ∧ composites.value? n = some [a, b] := by
  rcases Table.value?_cases composites n with h | ⟨r, hr, hc, -⟩
  · exact .inl h
  · obtain ⟨a, b, c, rfl, -⟩ := composites_facts.2.1 r hr
    simp only [Row.Covers] at hc
    obtain rfl : c = n := by omega
    exact .inr ⟨a, b, hr, Composes.value? hr⟩

/-! ## Hangul -/

theorem isSyllable_iff : Hangul.isSyllable n = true ↔ 0xAC00 ≤ n ∧ n < 0xD7A4 := by
  simp only [Hangul.isSyllable, Bool.and_eq_true, decide_eq_true_eq]
  rfl

theorem noSyllable_of_lt (h : n < 0xAC00) : Hangul.isSyllable n = false := by
  rw [Bool.eq_false_iff, ne_eq, isSyllable_iff]
  omega

theorem hangulParts_eq (n : Nat) :
    Hangul.parts n =
      [0x1100 + (n - 0xAC00) / 28 / 21, 0x1161 + (n - 0xAC00) / 28 % 21] ++
        if (n - 0xAC00) % 28 = 0 then [] else [0x11A7 + (n - 0xAC00) % 28] := rfl

/-- The leads, vowels and tails that syllables stand for. -/
def IsLetter (n : Nat) : Prop :=
  (0x1100 ≤ n ∧ n ≤ 0x1112) ∨ (0x1161 ≤ n ∧ n ≤ 0x1175) ∨ (0x11A8 ≤ n ∧ n ≤ 0x11C2)

theorem mem_hangulParts (h : Hangul.isSyllable n = true) (he : e ∈ Hangul.parts n) : IsLetter e := by
  obtain ⟨hl, hh⟩ := isSyllable_iff.mp h
  rw [hangulParts_eq] at he
  unfold IsLetter
  rcases List.mem_append.mp he with he | he
  · simp only [List.mem_cons, List.not_mem_nil, or_false] at he
    omega
  · split at he
    · cases he
    · rw [List.mem_singleton] at he
      omega

/-- Two are put together if they are a lead and a vowel, or a syllable without a tail and a tail. -/
theorem hangulJoin_cases (h : Hangul.join? a b = some c) :
    (0x1100 ≤ a ∧ a < 0x1113 ∧ 0x1161 ≤ b ∧ b < 0x1176 ∧
      c = 0xAC00 + ((a - 0x1100) * 21 + (b - 0x1161)) * 28) ∨
    (0xAC00 ≤ a ∧ a < 0xD7A4 ∧ (a - 0xAC00) % 28 = 0 ∧ 0x11A7 < b ∧ b < 0x11C3 ∧
      c = a + (b - 0x11A7)) := by
  unfold Hangul.join? at h
  split at h
  · next hab => exact .inl ⟨hab.1, hab.2.1, hab.2.2.1, hab.2.2.2, (Option.some.inj h).symm⟩
  · split at h
    · next hab =>
      obtain ⟨ha, hmod, hl, hh⟩ := hab
      exact .inr ⟨(isSyllable_iff.mp ha).1, (isSyllable_iff.mp ha).2, hmod, hl, hh,
        (Option.some.inj h).symm⟩
    · cases h

theorem isSyllable_of_hangulJoin (h : Hangul.join? a b = some c) : Hangul.isSyllable c = true := by
  rcases hangulJoin_cases h with ⟨_, _, _, _, hc⟩ | ⟨_, _, hmod, _, _, hc⟩
  · exact isSyllable_iff.mpr (by omega)
  · exact isSyllable_iff.mpr (by omega)

/-! ## Parts -/

theorem partsIn_alone {pairs : Table} (hs : Hangul.isSyllable n = false) (hv : pairs.value? n = none)
    (k : Nat) : partsIn pairs k n = [n] := by
  cases k with
  | zero => rfl
  | succ k => simp [partsIn, hs, hv]

theorem partsIn_pair {pairs : Table} (hn : ¬ c < 0x80) (hs : Hangul.isSyllable c = false)
    (hv : pairs.value? c = some [a, b]) (k : Nat) :
    partsIn pairs (k + 1) c = partsIn pairs k a ++ [b] := by
  simp [partsIn, hn, hs, hv]

theorem partsIn_syllable {pairs : Table} (h : Hangul.isSyllable n = true) (k : Nat) :
    partsIn pairs (k + 1) n = Hangul.parts n := by
  have hn : ¬ n < 0x80 := by
    have := isSyllable_iff.mp h
    omega
  simp [partsIn, hn, h]

theorem atom_of_ascii (h : n < 0x80) : Atom n :=
  ⟨noSyllable_of_lt (by omega), composites_facts.2.2.2.2.2 n h⟩

theorem atom_of_letter (h : IsLetter n) : Atom n := by
  unfold IsLetter at h
  exact ⟨noSyllable_of_lt (by omega), (composites_facts.2.2.1 n (by omega) (by omega)).1⟩

theorem Atom.partsIn_eq (h : Atom n) (k : Nat) : partsIn composites k n = [n] :=
  partsIn_alone h.noSyllable h.alone k

theorem Composes.partsIn_eq (h : Composes a b c) (k : Nat) :
    partsIn composites (k + 1) c = partsIn composites k a ++ [b] :=
  partsIn_pair (Nat.not_lt.mpr h.facts.high) h.facts.noSyllable h.value? k

theorem HoldsMarks.partsIn_eq (h : HoldsMarks k n) {j : Nat} (hj : k ≤ j) :
    partsIn composites j n = partsIn composites k n := by
  induction h generalizing j with
  | atom ha => rw [ha.partsIn_eq, ha.partsIn_eq]
  | pair hc ha ih =>
    cases j with
    | zero => omega
    | succ j => rw [hc.partsIn_eq, hc.partsIn_eq, ih (by omega)]

theorem HoldsMarks.atom_of_mem (h : HoldsMarks k n) : ∀ e ∈ partsIn composites k n, Atom e := by
  induction h with
  | atom ha =>
    intro e he
    rw [ha.partsIn_eq, List.mem_singleton] at he
    exact he ▸ ha
  | pair hc ha ih =>
    intro e he
    rw [hc.partsIn_eq] at he
    rcases List.mem_append.mp he with he | he
    · exact ih e he
    · exact List.mem_singleton.mp he ▸ hc.facts.second

/-- What the parts have that a character with such marks hands on. -/
theorem HoldsMarks.forall_mem {P : Nat → Prop} (hpair : ∀ {a b c}, Composes a b c → P c → P a ∧ P b)
    (h : HoldsMarks k n) (hn : P n) : ∀ e ∈ partsIn composites k n, P e := by
  induction h with
  | atom h => simpa [h.partsIn_eq] using hn
  | pair h _ ih =>
    obtain ⟨ha, hb⟩ := hpair h hn
    intro e he
    rw [h.partsIn_eq] at he
    rcases List.mem_append.mp he with he | he
    · exact ih ha e he
    · rw [List.mem_singleton.mp he]
      exact hb

theorem Atom.partsOf_eq (h : Atom n) : partsOf n = [n] := h.partsIn_eq mostMarks

theorem partsOf_syllable (h : Hangul.isSyllable n = true) : partsOf n = Hangul.parts n :=
  partsIn_syllable h 2

theorem Composes.partsOf_eq (h : Composes a b c) : partsOf c = partsOf a ++ [b] := by
  have hc : partsOf c = partsIn composites 2 a ++ [b] := h.partsIn_eq 2
  have ha : partsOf a = partsIn composites 2 a := h.facts.first.partsIn_eq (Nat.le_succ 2)
  rw [hc, ha]

/-- A character is a syllable of Hangul, or it is composed of two others, or it stands for
itself. -/
theorem character_cases (n : Nat) :
    Hangul.isSyllable n = true ∨ (∃ a b, Composes a b n) ∨ Atom n := by
  cases hs : Hangul.isSyllable n with
  | true => exact .inl rfl
  | false =>
    rcases value?_composites n with hv | ⟨a, b, hc, -⟩
    · exact .inr (.inr ⟨hs, hv⟩)
    · exact .inr (.inl ⟨a, b, hc⟩)

/-- Parts stand for themselves. -/
theorem atom_of_mem_partsOf (he : e ∈ partsOf n) : Atom e := by
  rcases character_cases n with h | ⟨a, b, h⟩ | h
  · rw [partsOf_syllable h] at he
    exact atom_of_letter (mem_hangulParts h he)
  · exact (HoldsMarks.pair h h.facts.first).atom_of_mem e he
  · rw [h.partsOf_eq, List.mem_singleton] at he
    exact he ▸ h

theorem forall_mem_partsOf {P : Nat → Prop} (hpair : ∀ {a b c}, Composes a b c → P c → P a ∧ P b)
    (hletter : ∀ {e}, IsLetter e → P e) (hn : P n) : ∀ e ∈ partsOf n, P e := by
  rcases character_cases n with h | ⟨a, b, h⟩ | h
  · intro e he
    rw [partsOf_syllable h] at he
    exact hletter (mem_hangulParts h he)
  · exact (HoldsMarks.pair h h.facts.first).forall_mem hpair hn
  · simpa [h.partsOf_eq] using hn

/-! ## Pairs -/

theorem partsOf_hangulJoin (h : Hangul.join? a b = some c) : partsOf c = partsOf a ++ [b] := by
  rcases hangulJoin_cases h with ⟨_, _, _, _, hc⟩ | ⟨_, _, hmod, _, _, hc⟩
  · -- a lead and a vowel
    have hs := isSyllable_of_hangulJoin h
    have ha : Atom a := atom_of_letter (by unfold IsLetter; omega)
    rw [partsOf_syllable hs, ha.partsOf_eq, hangulParts_eq, if_pos (by omega)]
    simp only [List.append_nil, List.singleton_append, List.cons.injEq, and_true]
    omega
  · -- a syllable without a tail, and a tail
    have hs := isSyllable_of_hangulJoin h
    have ha : Hangul.isSyllable a = true := isSyllable_iff.mpr (by omega)
    rw [partsOf_syllable hs, partsOf_syllable ha, hangulParts_eq, hangulParts_eq,
      if_neg (by omega), if_pos hmod]
    simp only [List.append_nil, List.cons_append, List.nil_append, List.cons.injEq, and_true]
    omega

theorem mem_of_find? {t : Table} {p : Row → Bool} {r : Row} (h : t.find? p = some r) :
    r ∈ t.toList ∧ p r = true :=
  ⟨Array.mem_def.mp (Array.mem_of_find?_eq_some h), Array.find?_some h⟩

/-- What is put together is a syllable of Hangul, or has a row in the table. -/
theorem join?_cases (h : join? a b = some c) :
    0x300 ≤ b ∧ (Hangul.join? a b = some c ∨ Composes a b c) := by
  unfold join? at h
  split at h
  · cases h
  · next hb =>
    refine ⟨by omega, ?_⟩
    split at h
    · next n hn => exact .inl (hn.trans h)
    · refine .inr ?_
      obtain ⟨r, hr, rfl⟩ := Option.map_eq_some_iff.mp h
      obtain ⟨hmem, hvalues⟩ := mem_of_find? hr
      obtain ⟨a', b', c', rfl, -⟩ := composites_facts.2.1 r hmem
      cases of_decide_eq_true hvalues
      exact hmem

/-- Two characters that are put together stand for the same as one. -/
theorem partsOf_join (h : join? a b = some c) : partsOf c = partsOf a ++ [b] := by
  rcases (join?_cases h).2 with h | h
  · exact partsOf_hangulJoin h
  · exact h.partsOf_eq

theorem join?_eq_none (a : Nat) (hb : b < 0x300) : join? a b = none := by
  rw [join?, if_pos hb]

/-- A character that stays as it is, whatever stands around it. -/
structure Inert (n : Nat) : Prop where
  atom : Atom n
  starter : combiningClass n = 0
  apart : ∀ a, join? a n = none

theorem inert_of_ascii (h : n < 0x80) : Inert n where
  atom := atom_of_ascii h
  starter := by rw [combiningClass, if_pos (by omega)]
  apart a := join?_eq_none a (by omega)

theorem inert_of_ideograph (h : isIdeograph n = true) : Inert n := by
  have hn : 0x4E00 ≤ n ∧ n ≤ 0x9FFF := by simpa [isIdeograph] using h
  have hfacts := composites_facts.2.2.2.2.1 n h
  refine ⟨⟨noSyllable_of_lt (by omega), hfacts.1⟩, hfacts.2, fun a => ?_⟩
  cases hj : join? a n with
  | none => rfl
  | some c =>
    rcases (join?_cases hj).2 with hj | hj
    · rcases hangulJoin_cases hj with ⟨_, _, _⟩ | ⟨_, _, _⟩ <;> omega
    · have hno := hj.facts.noIdeograph
      rw [h] at hno
      cases hno

/-- Nothing is put together with a mark before it. -/
theorem starter_of_join (h : join? a b = some c) : combiningClass a = 0 := by
  rcases (join?_cases h).2 with h | h
  · rcases hangulJoin_cases h with ⟨_, _, _⟩ | ⟨_, _, _⟩
    · exact (composites_facts.2.2.1 a (by omega) (by omega)).2
    · exact composites_facts.2.2.2.1 a (by omega) (by omega)
  · exact h.facts.starter

/-- Nor with a dot. -/
theorem afterDot_of_join (h : join? a b = some c) : 0x2E < a := by
  rcases (join?_cases h).2 with h | h
  · rcases hangulJoin_cases h with ⟨_, _⟩ | ⟨_, _⟩ <;> omega
  · exact h.facts.afterDot

end ClusterOperator.Text
