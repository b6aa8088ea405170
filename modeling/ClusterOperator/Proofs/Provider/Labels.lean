import ClusterOperator.Proofs.Digest.Uuid
import ClusterOperator.Provider.Labels

/-!
# What labels tell apart

A login's label tells its endpoint, and as far as identifiers made from names tell
names apart, the key and the secret with the line break between them. Line breaks in
a key or a secret are not told from that one.
-/

namespace ClusterOperator.Provider

variable {u v : String} {a b : Credential}

/-- A text is cut at a line break, and the second time at this one or at a later one. -/
theorem lines_of_cut {k l s t : String} {m : List Char} (hl : l.toList = k.toList ++ m)
    (hs : '\n' :: s.toList = m ++ '\n' :: t.toList) :
    (k = l ∧ s = t) ∨ ∃ m, l = k ++ "\n" ++ m ∧ s = m ++ "\n" ++ t := by
  cases m with
  | nil =>
    refine .inl ⟨String.toList_inj.mp (by simpa using hl.symm), String.toList_inj.mp ?_⟩
    simpa using hs
  | cons c m =>
    obtain ⟨rfl, hs⟩ := List.cons.inj hs
    refine .inr ⟨String.ofList m, String.toList_inj.mp ?_, String.toList_inj.mp ?_⟩
    · simpa using hl
    · simpa using hs

/-- Two ways to cut a text at a line break are the same, or the one cuts at a break
that the other has within a part. -/
theorem lines_eq_iff {k l s t : String} : k ++ "\n" ++ s = l ++ "\n" ++ t ↔
    (k = l ∧ s = t) ∨ (∃ m, l = k ++ "\n" ++ m ∧ s = m ++ "\n" ++ t) ∨
      ∃ m, k = l ++ "\n" ++ m ∧ t = m ++ "\n" ++ s := by
  constructor
  · intro h
    have hc := congrArg String.toList h
    simp only [String.toList_append, List.append_assoc] at hc
    rcases List.append_eq_append_iff.mp hc with ⟨m, hl, hs⟩ | ⟨m, hk, ht⟩
    · rcases lines_of_cut hl (by simpa using hs) with he | hm
      · exact .inl he
      · exact .inr (.inl hm)
    · rcases lines_of_cut hk (by simpa using ht) with ⟨rfl, rfl⟩ | hm
      · exact .inl ⟨rfl, rfl⟩
      · exact .inr (.inr hm)
  · rintro (⟨rfl, rfl⟩ | ⟨m, rfl, rfl⟩ | ⟨m, rfl, rfl⟩)
    · rfl
    · simp only [String.append_assoc]
    · simp only [String.append_assoc]

theorem labelMaterial_eq_iff : labelMaterial u a = labelMaterial u b ↔
    a.key ++ "\n" ++ a.secret = b.key ++ "\n" ++ b.secret := by
  unfold labelMaterial
  simp only [String.append_assoc]
  exact (String.append_right_inj _).trans (String.append_right_inj _)

/-- Fingerprints have one length, so that a label tells where its endpoint ends. -/
theorem sessionLabel_split (h : sessionLabel u a = sessionLabel v b) :
    u = v ∧ Uuid.ofName .operator (utf8 (labelMaterial u a)) =
      Uuid.ofName .operator (utf8 (labelMaterial v b)) := by
  have hc := congrArg String.toList h
  unfold sessionLabel at hc
  simp only [String.toList_append] at hc
  have hl := (Uuid.length_text (Uuid.ofName_lt .operator (utf8 (labelMaterial u a)))).trans
    (Uuid.length_text (Uuid.ofName_lt .operator (utf8 (labelMaterial v b)))).symm
  obtain ⟨hu, ht⟩ := List.append_inj' hc hl
  obtain ⟨hu, -⟩ := List.append_inj' hu rfl
  exact ⟨String.toList_inj.mp hu, Uuid.text_inj (String.toList_inj.mp ht)⟩

/-- As far as fingerprints tell the two logins apart, labels tell endpoints apart, and
credentials unless a line break in the key of the one is where the other's key ends. -/
theorem sessionLabel_eq_iff (h : Uuid.ofName .operator (utf8 (labelMaterial u a)) =
      Uuid.ofName .operator (utf8 (labelMaterial v b)) → labelMaterial u a = labelMaterial v b) :
    sessionLabel u a = sessionLabel v b ↔ u = v ∧
      (a = b ∨ (∃ m, b.key = a.key ++ "\n" ++ m ∧ a.secret = m ++ "\n" ++ b.secret) ∨
        ∃ m, a.key = b.key ++ "\n" ++ m ∧ b.secret = m ++ "\n" ++ a.secret) := by
  have same : a = b ↔ a.key = b.key ∧ a.secret = b.secret := by
    cases a
    cases b
    simp
  rw [same, ← lines_eq_iff]
  constructor
  · intro hl
    obtain ⟨rfl, hf⟩ := sessionLabel_split hl
    exact ⟨rfl, labelMaterial_eq_iff.mp (h hf)⟩
  · rintro ⟨rfl, hm⟩
    unfold sessionLabel
    rw [labelMaterial_eq_iff.mpr hm]

/-- A key of two lines goes with a key of one and a secret of two. The secret in one line is
told from that. -/
theorem sessionLabel_eq_iff_lines :
    sessionLabel "https://api.example.com" ⟨"a\nb", "c"⟩ =
      sessionLabel "https://api.example.com" ⟨"a", "b\nc"⟩ ∧
    sessionLabel "https://api.example.com" ⟨"a", "bc"⟩ ≠
      sessionLabel "https://api.example.com" ⟨"a", "b\nc"⟩ := by
  constructor
  · exact (sessionLabel_eq_iff fun _ => by decide).mpr ⟨rfl, .inr (.inr ⟨"b", by decide, by decide⟩)⟩
  · intro hl
    have hf : Uuid.ofName .operator (utf8 (labelMaterial "https://api.example.com" ⟨"a", "bc"⟩)) ≠
        Uuid.ofName .operator (utf8 (labelMaterial "https://api.example.com" ⟨"a", "b\nc"⟩)) := by
      decide +kernel
    have longer : ∀ m : String, "a" ≠ "a" ++ "\n" ++ m := by
      intro m hm
      have hlen := congrArg String.length hm
      simp only [String.length_append] at hlen
      have hbreak : "\n".length = 1 := by decide
      omega
    obtain ⟨-, he | ⟨m, hm, -⟩ | ⟨m, hm, -⟩⟩ := (sessionLabel_eq_iff fun h => absurd h hf).mp hl
    · revert he
      decide
    · exact longer m hm
    · exact longer m hm

/-- Two credentials that differ in both parts are shared under one label. -/
theorem sessionLabel_collides :
    labelMaterial "https://api.example.com" ⟨"a\nb", "c"⟩ =
      labelMaterial "https://api.example.com" ⟨"a", "b\nc"⟩ ∧
    ¬ (sessionLabel "https://api.example.com" ⟨"a\nb", "c"⟩ =
        sessionLabel "https://api.example.com" ⟨"a", "b\nc"⟩ →
      "a\nb" = "a" ∧ "c" = "b\nc") := by
  have hm : labelMaterial "https://api.example.com" ⟨"a\nb", "c"⟩ =
      labelMaterial "https://api.example.com" ⟨"a", "b\nc"⟩ := by decide
  refine ⟨hm, fun h => ?_⟩
  have hl : sessionLabel "https://api.example.com" ⟨"a\nb", "c"⟩ =
      sessionLabel "https://api.example.com" ⟨"a", "b\nc"⟩ := by
    unfold sessionLabel
    rw [hm]
  exact absurd (h hl).1 (by decide)

end ClusterOperator.Provider
