import Mathlib.Data.Bool.AllAny
import ClusterOperator.Proofs.Text.Utf8
import ClusterOperator.Url.Percent

/-!
# Percent-encoding, done twice

What is escaped holds no character of its set any more, as no set holds a `%` or a digit. So a text
that is escaped already stays as it is.
-/

namespace ClusterOperator.Url

variable {set : Char → Bool} {cs : List Char} {c : Char}

/-- What holds of the code points of ASCII one by one holds of its characters. -/
theorem forall_ascii {P : Char → Prop} (all : ∀ n : Fin 0x80, P (Char.ofNat n.val)) {c : Char}
    (h : c.toNat < 0x80) : P c := by
  have hc := all ⟨c.toNat, h⟩
  rwa [Char.ofNat_toNat] at hc

/-- The characters that escapes are written in. -/
def escapeChars : List Char :=
  ['%', '0', '1', '2', '3', '4', '5', '6', '7', '8', '9', 'A', 'B', 'C', 'D', 'E', 'F']

theorem hexDigit_mem {n : Nat} (h : n < 16) : Text.hexDigit 'A' n ∈ escapeChars := by
  have all : ∀ n : Fin 16, Text.hexDigit 'A' n.val ∈ escapeChars := by decide
  exact all ⟨n, h⟩

theorem mem_escapeByte {b : UInt8} (h : c ∈ escapeByte b) : c ∈ escapeChars := by
  have hb : b.toNat < 256 := b.toNat_lt
  simp only [escapeByte, List.mem_cons, List.not_mem_nil, or_false] at h
  rcases h with rfl | rfl | rfl
  · decide
  · exact hexDigit_mem (by omega)
  · exact hexDigit_mem (by omega)

/-- A character of an escaped text stood there before, or it belongs to an escape. -/
theorem mem_escape (h : c ∈ escape set cs) : (c ∈ cs ∧ set c = false) ∨ c ∈ escapeChars := by
  obtain ⟨d, hd, hc⟩ := List.mem_flatMap.mp h
  by_cases hs : set d = true
  · rw [if_pos hs] at hc
    obtain ⟨b, -, hb⟩ := List.mem_flatMap.mp hc
    exact .inr (mem_escapeByte hb)
  · rw [if_neg hs] at hc
    obtain rfl := List.mem_singleton.mp hc
    exact .inl ⟨hd, by simpa using hs⟩

/-- No character of the set is one that escapes are written in. -/
def SparesEscapes (set : Char → Bool) : Prop := ∀ c ∈ escapeChars, set c = false

theorem sparesEscapes_needsEscape : SparesEscapes needsEscape :=
  List.all_iff_forall_prop.mp (by decide)

theorem sparesEscapes_inFragmentSet : SparesEscapes inFragmentSet :=
  List.all_iff_forall_prop.mp (by decide)

theorem sparesEscapes_inQuerySet (special : Bool) : SparesEscapes (inQuerySet special) :=
  List.all_iff_forall_prop.mp (by cases special <;> decide)

theorem sparesEscapes_inPathSet : SparesEscapes inPathSet :=
  List.all_iff_forall_prop.mp (by decide)

theorem SparesEscapes.of_mem (hs : SparesEscapes set) (h : c ∈ escape set cs) : set c = false := by
  rcases mem_escape h with h | h
  · exact h.2
  · exact hs c h

theorem escape_eq_self (h : ∀ c ∈ cs, set c = false) : escape set cs = cs := by
  induction cs with
  | nil => rfl
  | cons c cs ih =>
    have hc := h c List.mem_cons_self
    have ih := ih fun d hd => h d (List.mem_cons_of_mem c hd)
    unfold escape at ih ⊢
    rw [List.flatMap_cons, hc, ih]
    rfl

theorem SparesEscapes.escape_escape (hs : SparesEscapes set) (cs : List Char) :
    escape set (escape set cs) = escape set cs :=
  escape_eq_self fun _ hc => hs.of_mem hc

theorem escape_eq_nil : escape set cs = [] ↔ cs = [] := by
  constructor
  · intro h
    cases cs with
    | nil => rfl
    | cons c cs =>
      have hc := (List.flatMap_eq_nil_iff.mp h) c List.mem_cons_self
      split at hc
      · obtain ⟨b, bs, hb⟩ := List.exists_cons_of_ne_nil (String.utf8EncodeChar_ne_nil (c := c))
        simp [hb, escapeByte] at hc
      · cases hc
  · rintro rfl
    rfl

/-! ## Texts without escapes -/

theorem unescape_of_not_mem (h : '%' ∉ cs) : unescape cs = cs.flatMap String.utf8EncodeChar := by
  induction cs with
  | nil => rfl
  | cons c cs ih =>
    have hc : c ≠ '%' := fun hc => h (by simp [hc])
    have ih := ih fun hm => h (List.mem_cons_of_mem c hm)
    rw [unescape.eq_def]
    split
    · next heq => cases heq
    · next heq => exact absurd (List.cons.inj heq).1 hc
    · next heq =>
      obtain ⟨rfl, rfl⟩ := List.cons.inj heq
      rw [ih, List.flatMap_cons]

theorem ofBytes_unescape (h : '%' ∉ cs) : Text.ofBytes (unescape cs) = String.ofList cs := by
  rw [unescape_of_not_mem h, Text.ofBytes_utf8]

end ClusterOperator.Url
