import Mathlib.Data.List.Forall2
import ClusterOperator.Url.Address

/-!
# Texts with separators

Parts that are put together with a separator that is in none of them are cut apart again where
they were.
-/

namespace ClusterOperator.Url

variable {α β : Type} [DecidableEq α] [DecidableEq β] {sep : α} {cs : List α}

theorem splitOn_ne_nil (sep : α) (cs : List α) : splitOn sep cs ≠ [] := by
  cases cs with
  | nil => exact List.cons_ne_nil _ _
  | cons c cs =>
    unfold splitOn
    split
    · exact List.cons_ne_nil _ _
    · split <;> exact List.cons_ne_nil _ _

theorem splitOn_sep (sep : α) (cs : List α) : splitOn sep (sep :: cs) = [] :: splitOn sep cs := by
  rw [splitOn, if_pos rfl]

theorem splitOn_cons {c : α} (hc : c ≠ sep) {part : List α} {parts : List (List α)}
    (h : splitOn sep cs = part :: parts) : splitOn sep (c :: cs) = (c :: part) :: parts := by
  rw [splitOn, if_neg hc, h]

theorem splitOn_append {part : List α} (h : sep ∉ part) {first : List α} {rest : List (List α)}
    (hcs : splitOn sep cs = first :: rest) : splitOn sep (part ++ cs) = (part ++ first) :: rest := by
  induction part with
  | nil => exact hcs
  | cons c part ih =>
    have hc : c ≠ sep := fun hc => h (by simp [hc])
    exact splitOn_cons hc (ih fun hm => h (List.mem_cons_of_mem c hm))

theorem splitOn_of_not_mem (h : sep ∉ cs) : splitOn sep cs = [cs] := by
  have := splitOn_append h (show splitOn sep ([] : List α) = [[]] from rfl)
  simpa using this

theorem splitOn_part {part : List α} (h : sep ∉ part) (cs : List α) :
    splitOn sep (part ++ sep :: cs) = part :: splitOn sep cs := by
  have := splitOn_append h (splitOn_sep sep cs)
  simpa using this

/-- Parts are free of the separator. -/
theorem not_mem_of_mem_splitOn {part : List α} (h : part ∈ splitOn sep cs) : sep ∉ part := by
  induction cs generalizing part with
  | nil =>
    obtain rfl := List.mem_singleton.mp h
    exact List.not_mem_nil
  | cons c cs ih =>
    by_cases hc : c = sep
    · subst hc
      rw [splitOn_sep] at h
      rcases List.mem_cons.mp h with rfl | h
      · exact List.not_mem_nil
      · exact ih h
    · obtain ⟨first, rest, hf⟩ := List.exists_cons_of_ne_nil (splitOn_ne_nil sep cs)
      rw [splitOn_cons hc hf] at h
      rcases List.mem_cons.mp h with rfl | h
      · have hfirst : sep ∉ first := ih (by simp [hf])
        simpa [Ne.symm hc] using hfirst
      · exact ih (by simp [hf, h])

/-- The characters of parts are those of the text. -/
theorem mem_of_mem_splitOn {part : List α} (h : part ∈ splitOn sep cs) {c : α} (hc : c ∈ part) :
    c ∈ cs := by
  induction cs generalizing part with
  | nil =>
    obtain rfl := List.mem_singleton.mp h
    exact hc
  | cons d cs ih =>
    by_cases hd : d = sep
    · subst hd
      rw [splitOn_sep] at h
      rcases List.mem_cons.mp h with rfl | h
      · cases hc
      · exact List.mem_cons_of_mem _ (ih h hc)
    · obtain ⟨first, rest, hf⟩ := List.exists_cons_of_ne_nil (splitOn_ne_nil sep cs)
      rw [splitOn_cons hd hf] at h
      rcases List.mem_cons.mp h with rfl | h
      · rcases List.mem_cons.mp hc with rfl | hc
        · exact List.mem_cons_self
        · exact List.mem_cons_of_mem _ (ih (by simp [hf]) hc)
      · exact List.mem_cons_of_mem _ (ih (by simp [hf, h]) hc)

/-- A text whose characters are written in another way, without confusing the separator. -/
theorem splitOn_map {f : α → β} (h : ∀ c ∈ cs, f c = f sep → c = sep) :
    splitOn (f sep) (cs.map f) = (splitOn sep cs).map (List.map f) := by
  induction cs with
  | nil => rfl
  | cons c cs ih =>
    have ih := ih fun d hd => h d (List.mem_cons_of_mem c hd)
    rw [List.map_cons]
    by_cases hc : c = sep
    · subst hc
      rw [splitOn_sep, splitOn_sep, ih, List.map_cons, List.map_nil]
    · have hf : f c ≠ f sep := fun hf => hc (h c List.mem_cons_self hf)
      obtain ⟨first, rest, hs⟩ := List.exists_cons_of_ne_nil (splitOn_ne_nil sep cs)
      rw [hs] at ih
      rw [splitOn_cons hc hs, splitOn_cons hf ih, List.map_cons, List.map_cons]

/-! ## Putting together -/

variable {parts : List (List Char)} {mark : Char}

theorem joinWith_cons {rest : List (List Char)} (h : rest ≠ []) (sep part : List Char) :
    joinWith sep (part :: rest) = part ++ sep ++ joinWith sep rest := by
  cases rest with
  | nil => exact absurd rfl h
  | cons p ps => rfl

theorem splitOn_joinWith (hne : parts ≠ []) (h : ∀ p ∈ parts, mark ∉ p) :
    splitOn mark (joinWith [mark] parts) = parts := by
  induction parts with
  | nil => exact absurd rfl hne
  | cons part rest ih =>
    by_cases hr : rest = []
    · subst hr
      exact splitOn_of_not_mem (h part List.mem_cons_self)
    · rw [joinWith_cons hr, List.append_assoc, List.singleton_append,
        splitOn_part (h part List.mem_cons_self), ih hr fun p hp => h p (List.mem_cons_of_mem _ hp)]

theorem mem_joinWith {sep : List Char} {c : Char} (h : c ∈ joinWith sep parts) :
    c ∈ sep ∨ ∃ p ∈ parts, c ∈ p := by
  induction parts with
  | nil => cases h
  | cons part rest ih =>
    by_cases hr : rest = []
    · subst hr
      exact .inr ⟨part, List.mem_cons_self, h⟩
    · rw [joinWith_cons hr] at h
      simp only [List.mem_append] at h
      rcases h with (h | h) | h
      · exact .inr ⟨part, List.mem_cons_self, h⟩
      · exact .inl h
      · rcases ih h with h | ⟨p, hp, hc⟩
        · exact .inl h
        · exact .inr ⟨p, List.mem_cons_of_mem _ hp, hc⟩

/-! ## Reading each part -/

/-- What is read of all parts is read of each. -/
theorem mapM_eq_some {α β : Type} {f : α → Option β} {as : List α} {bs : List β} :
    as.mapM f = some bs ↔ List.Forall₂ (fun a b => f a = some b) as bs := by
  induction as generalizing bs with
  | nil => simp [eq_comm]
  | cons a as ih =>
    constructor
    · intro h
      simp only [List.mapM_cons, bind, Option.bind_eq_some_iff, pure, Option.some.injEq] at h
      obtain ⟨b, hb, cs, hcs, rfl⟩ := h
      exact .cons hb (ih.mp hcs)
    · rintro (_ | ⟨hb, hcs⟩)
      simp [List.mapM_cons, hb, ih.mpr hcs]

/-- What is not read of one part is not read of all. -/
theorem mapM_eq_none {α β : Type} {f : α → Option β} {as : List α} {a : α} (ha : a ∈ as)
    (h : f a = none) : as.mapM f = none := by
  induction as with
  | nil => cases ha
  | cons first as ih =>
    rw [List.mapM_cons]
    rcases List.mem_cons.mp ha with rfl | ha
    · rw [h]
      rfl
    · cases hf : f first with
      | none => rfl
      | some b => simp [ih ha]

/-- Each result is that of a part. -/
theorem exists_of_mapM {α β : Type} {f : α → Option β} {as : List α} {bs : List β}
    (h : as.mapM f = some bs) {b : β} (hb : b ∈ bs) : ∃ a ∈ as, f a = some b := by
  replace h := mapM_eq_some.mp h
  induction h with
  | nil => cases hb
  | @cons a b' as bs ha _ ih =>
    rcases List.mem_cons.mp hb with rfl | hb
    · exact ⟨a, List.mem_cons_self, ha⟩
    · obtain ⟨a, hm, ha⟩ := ih hb
      exact ⟨a, List.mem_cons_of_mem _ hm, ha⟩

end ClusterOperator.Url
