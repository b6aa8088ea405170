import ClusterOperator.Proofs.Text.Composed
import ClusterOperator.Proofs.Url.Mapping
import ClusterOperator.Proofs.Url.Punycode

/-!
# Plain characters

A name is spelled in plain characters, its composed form has only such, and they are spelled as
they are. None of them is a surrogate, so each can be written in Punycode.
-/

namespace ClusterOperator.Url

open Text
open Punycode.Decoder (IsScalar)

variable {a b c n : Nat} {values : List Nat}

/-- A character that stands for itself. -/
def Plain (n : Nat) : Prop := n < 0x110000 ∧ isPlain n = true

theorem isKept_iff {refusedTree ignoredTree replacedTree : Tree}
    (hr : ∀ n, refusedTree.find? n = refused.row? n) (hi : ∀ n, ignoredTree.find? n = ignored.row? n)
    (hp : ∀ n, replacedTree.find? n = replaced.row? n) (n : Nat) :
    isKept refusedTree ignoredTree replacedTree n = true ↔ Plain n := by
  have hnot (o : Option Row) : (!o.isSome) = o.isNone := by cases o <;> rfl
  simp only [isKept, Plain, isPlain, Bool.and_eq_true, decide_eq_true_eq, hr, hi, hp, Table.holds,
    Table.value?, hnot]

/-- What the check tells of the tables. -/
theorem mapping_facts :
    (∀ n, 0xD800 ≤ n → n ≤ 0xDFFF → refused.holds n = true) ∧
    (∀ n, IsLetter n ∨ Hangul.isSyllable n = true ∨ isIdeograph n = true → Plain n) ∧
    (∃ kept : Nat → Bool, (∀ n, kept n = true ↔ Plain n) ∧
      (∀ r ∈ replaced.toList, givesKept kept r = true) ∧
      ∀ r ∈ composites.toList, composesKept kept r = true) := by
  have hcheck := mapping_checked
  simp only [checkMapping, Bool.and_eq_true] at hcheck
  obtain ⟨⟨⟨⟨hsur, hrefused⟩, hignored⟩, hreplaced⟩, htrees⟩ := hcheck
  obtain ⟨horder, -, refusedTree, hr, htrees⟩ := checkTree_spec htrees
  obtain ⟨-, -, ignoredTree, hi, htrees⟩ := checkTree_spec htrees
  obtain ⟨-, -, replacedTree, hp, htrees⟩ := checkTree_spec htrees
  rw [Bool.and_eq_true] at htrees
  refine ⟨fun n hl hh => ?_, fun n hn => ?_, _, isKept_iff hr hi hp,
    List.all_eq_true.mp htrees.1, List.all_eq_true.mp htrees.2⟩
  · obtain ⟨r, hr, hc⟩ := List.any_eq_true.mp hsur
    simp only [Bool.and_eq_true, decide_eq_true_eq] at hc
    exact (Table.holds_iff horder).mpr ⟨r, hr, by omega, by omega⟩
  · simp only [isSyllable_iff, IsLetter, isIdeograph, Bool.and_eq_true, decide_eq_true_eq] at hn
    have clear {t : Table} (h : clearOfScripts t.toList = true) : t.row? n = none := by
      simp only [clearOfScripts, Bool.and_eq_true] at h
      obtain ⟨⟨⟨⟨hlead, hvowel⟩, htail⟩, hsyllable⟩, hideograph⟩ := h
      rcases hn with (⟨hl, hh⟩ | ⟨hl, hh⟩ | ⟨hl, hh⟩) | ⟨hl, hh⟩ | ⟨hl, hh⟩
      · exact Table.row?_of_checkClear hlead hl hh
      · exact Table.row?_of_checkClear hvowel hl hh
      · exact Table.row?_of_checkClear htail hl hh
      · exact Table.row?_of_checkClear hsyllable hl (by omega)
      · exact Table.row?_of_checkClear hideograph hl hh
    have hr := Table.holds_eq_false (clear hrefused)
    have hi := Table.holds_eq_false (clear hignored)
    have hp := Table.value?_eq_none (clear hreplaced)
    refine ⟨by omega, ?_⟩
    rw [isPlain, if_neg (by omega), hr, hi, hp]
    rfl

theorem Plain.isScalar (h : Plain n) : IsScalar n := by
  by_cases hn : 0xD800 ≤ n ∧ n ≤ 0xDFFF
  · have hr := mapping_facts.1 n hn.1 hn.2
    have hp := h.2
    rw [isPlain, if_neg (by omega), hr] at hp
    cases hp
  · have := h.1
    unfold IsScalar
    omega

/-- The composed form of plain characters has only such, and comes of none but such. -/
theorem closed_plain : Closed Plain where
  pair {a b c} h := by
    obtain ⟨-, -, kept, hkept, -, hpairs⟩ := mapping_facts
    have hrow := hpairs _ h
    simp only [composesKept, decide_eq_true_eq] at hrow
    rw [← hkept, ← hkept, ← hkept, hrow, Bool.and_eq_true]
  letter h := mapping_facts.2.1 _ (.inl h)
  syllable h := mapping_facts.2.1 _ (.inr (.inl h))

/-- What a row gives for a code point is kept if all that it gives is. -/
theorem forall_mem_of_givesKept {kept : Nat → Bool} {r : Row} (h : givesKept kept r = true)
    (hc : r.Covers n) (hv : r.value? n = some values) : ∀ v ∈ values, kept v = true := by
  obtain ⟨hl, hh⟩ := hc
  unfold givesKept at h
  unfold Row.value? at hv
  cases hg : r.gift with
  | nothing => simp [hg] at hv
  | values =>
    simp only [hg, Option.some.injEq] at h hv
    subst hv
    exact List.all_eq_true.mp h
  | run =>
    simp only [hg, Option.some.injEq] at h hv
    subst hv
    intro v hv
    obtain ⟨w, hw, rfl⟩ := List.mem_map.mp hv
    have hk := List.all_eq_true.mp h (n - r.first) (List.mem_range.mpr (by omega))
    exact List.all_eq_true.mp hk w hw
  | pairs =>
    simp only [hg] at h hv
    split at hv
    · next hmod =>
      obtain rfl := Option.some.inj hv
      have hk := List.all_eq_true.mp h (n - r.first) (List.mem_range.mpr (by omega))
      simp only [Bool.or_eq_true, decide_eq_true_eq] at hk
      have hn : r.first + (n - r.first) + 1 = n + 1 := by omega
      intro v hv
      rw [List.mem_singleton.mp hv, ← hn]
      exact hk.resolve_left (by omega)
    · cases hv

/-- A spelling is in plain characters. -/
theorem plain_of_spelling (hn : n < 0x110000) (h : spelling? n = some values) :
    ∀ v ∈ values, Plain v := by
  unfold spelling? at h
  split at h
  · next hlt =>
    obtain rfl := Option.some.inj h
    intro v hv
    rw [List.mem_singleton.mp hv]
    refine ⟨by split <;> omega, ?_⟩
    by_cases hu : (0x41 ≤ n && n ≤ 0x5A) = true
    · rw [if_pos hu]
      simp only [Bool.and_eq_true, decide_eq_true_eq] at hu
      have hlarge : ¬ n + 0x20 ≤ 0x5A := by omega
      have hsmall : n + 0x20 < 0x80 := by omega
      simp [isPlain, hlarge, hsmall]
    · rw [if_neg hu, isPlain, if_pos hlt]
      exact (Bool.not_eq_true' _).mpr (Bool.not_eq_true _ ▸ hu)
  next hlt =>
  split at h
  · cases h
  next hr =>
  split at h
  · obtain rfl := Option.some.inj h
    simp
  next hi =>
  obtain rfl := Option.some.inj h
  cases hv : replaced.value? n with
  | none =>
    intro v hm
    obtain rfl : v = n := by simpa [hv] using hm
    refine ⟨hn, ?_⟩
    simp [isPlain, hlt, hr, hi, hv]
  | some values =>
    obtain ⟨-, -, kept, hkept, hgives, -⟩ := mapping_facts
    rcases Table.value?_cases replaced n with h | ⟨r, hm, hc, heq⟩
    · rw [h] at hv
      cases hv
    · intro v hv'
      exact (hkept v).mp (forall_mem_of_givesKept (hgives r hm) hc (heq ▸ hv) v (by simpa using hv'))

/-- A plain character is spelled as it is. -/
theorem Plain.spelling_eq (h : Plain n) : spelling? n = some [n] := by
  have hp := h.2
  unfold isPlain at hp
  unfold spelling?
  split at hp
  · next hlt =>
    rw [if_pos hlt, if_neg (by rw [Bool.not_eq_true]; exact (Bool.not_eq_true' _).mp hp)]
  · next hlt =>
    simp only [Bool.and_eq_true, Bool.not_eq_true', Option.isNone_iff_eq_none] at hp
    simp [hlt, hp]
end ClusterOperator.Url
