import ClusterOperator.Proofs.Url.Percent
import ClusterOperator.Url

/-!
# Paths, written and read

The segments of a path that was read are escaped and lead nowhere else, so the path is read again
from its text as it is.
-/

namespace ClusterOperator.Url

variable {k : Kind} {cs s : List Char} {names parts place : List (List Char)} {path : Path}
  {c : Char}

/-- A segment that is written: it is escaped, holds no slash and leads nowhere else. -/
structure IsSegment (k : Kind) (s : List Char) : Prop where
  escaped : ∀ c ∈ s, inPathSet c = false
  whole : ∀ c ∈ s, isSlash k c = false
  stays : isDot s = false
  goes : isDoubleDot s = false

/-! ## Segments -/

theorem splitSegments_slash (hc : isSlash k c = true) (cs : List Char) :
    splitSegments k (c :: cs) = [] :: splitSegments k cs := by
  rw [splitSegments, if_pos hc]

theorem splitSegments_cons (hc : isSlash k c = false) (h : splitSegments k cs = s :: parts) :
    splitSegments k (c :: cs) = (c :: s) :: parts := by
  rw [splitSegments, if_neg (by simp [hc]), h]

theorem splitSegments_ne_nil (k : Kind) (cs : List Char) : splitSegments k cs ≠ [] := by
  cases cs with
  | nil => exact List.cons_ne_nil _ _
  | cons c cs =>
    unfold splitSegments
    split
    · exact List.cons_ne_nil _ _
    · split <;> exact List.cons_ne_nil _ _

theorem whole_of_mem_splitSegments (h : s ∈ splitSegments k cs) : ∀ c ∈ s, isSlash k c = false := by
  induction cs generalizing s with
  | nil =>
    rw [List.mem_singleton.mp h]
    simp
  | cons c cs ih =>
    cases hc : isSlash k c with
    | true =>
      rw [splitSegments_slash hc] at h
      rcases List.mem_cons.mp h with rfl | h
      · simp
      · exact ih h
    | false =>
      obtain ⟨first, rest, hs⟩ := List.exists_cons_of_ne_nil (splitSegments_ne_nil k cs)
      rw [splitSegments_cons hc hs] at h
      rcases List.mem_cons.mp h with rfl | h
      · exact List.forall_mem_cons.mpr ⟨hc, ih (by simp [hs])⟩
      · exact ih (by simp [hs, h])

theorem splitSegments_append (hs : ∀ c ∈ s, isSlash k c = false) {first : List Char}
    (h : splitSegments k cs = first :: parts) : splitSegments k (s ++ cs) = (s ++ first) :: parts := by
  induction s with
  | nil => exact h
  | cons c s ih =>
    obtain ⟨hc, hs⟩ := List.forall_mem_cons.mp hs
    exact splitSegments_cons hc (ih hs)

theorem splitSegments_text (hs : ∀ c ∈ s, isSlash k c = false)
    (h : ∀ s ∈ names, ∀ c ∈ s, isSlash k c = false) :
    splitSegments k (s ++ names.flatMap ('/' :: ·)) = s :: names := by
  induction names generalizing s with
  | nil =>
    have := splitSegments_append hs (show splitSegments k [] = [[]] from rfl)
    simpa using this
  | cons t names ih =>
    obtain ⟨ht, hnames⟩ := List.forall_mem_cons.mp h
    have hslash : isSlash k '/' = true := by simp [isSlash]
    have hrest := splitSegments_append hs (splitSegments_slash hslash (t ++ names.flatMap ('/' :: ·)))
    rw [ih ht hnames, List.append_nil] at hrest
    exact hrest

/-! ## Following segments -/

theorem resolve_plain (h : ∀ s ∈ parts, isDot s = false ∧ isDoubleDot s = false) :
    resolve place parts = parts.reverse ++ place := by
  induction parts generalizing place with
  | nil => rfl
  | cons s parts ih =>
    obtain ⟨⟨hdot, hdouble⟩, hparts⟩ := List.forall_mem_cons.mp h
    cases parts with
    | nil => simp [resolve, hdot, hdouble]
    | cons t parts =>
      rw [resolve]
      · simp only [hdouble, hdot, Bool.false_eq_true, if_false]
        rw [ih hparts]
        simp
      · simp

theorem mem_goBack (h : s ∈ goBack place) : s ∈ place := by
  unfold goBack at h
  split at h
  · cases h
  · split at h
    · exact h
    · exact List.mem_cons_of_mem _ h

/-- Where segments lead is a place of segments that were followed. -/
theorem mem_resolve (h : s ∈ resolve place parts) :
    s ∈ place ∨ s = [] ∨ (s ∈ parts ∧ isDot s = false ∧ isDoubleDot s = false) := by
  fun_induction resolve place parts with
  | case1 place => exact .inl h
  | case2 place last hdouble =>
    rcases List.mem_cons.mp h with rfl | h
    · exact .inr (.inl rfl)
    · exact .inl (mem_goBack h)
  | case3 place last hdouble hdot =>
    rcases List.mem_cons.mp h with rfl | h
    · exact .inr (.inl rfl)
    · exact .inl h
  | case4 place last hdouble hdot =>
    rcases List.mem_cons.mp h with rfl | h
    · exact .inr (.inr ⟨by simp, by simpa using hdot, by simpa using hdouble⟩)
    · exact .inl h
  | case5 place part parts hne hdouble ih =>
    rcases ih h with h | h | h
    · exact .inl (mem_goBack h)
    · exact .inr (.inl h)
    · exact .inr (.inr ⟨List.mem_cons_of_mem _ h.1, h.2⟩)
  | case6 place part parts hne hdouble hdot ih =>
    rcases ih h with h | h | h
    · exact .inl h
    · exact .inr (.inl h)
    · exact .inr (.inr ⟨List.mem_cons_of_mem _ h.1, h.2⟩)
  | case7 place part parts hne hdouble hdot ih =>
    rcases ih h with h | h | h
    · rcases List.mem_cons.mp h with rfl | h
      · exact .inr (.inr ⟨by simp, by simpa using hdot, by simpa using hdouble⟩)
      · exact .inl h
    · exact .inr (.inl h)
    · exact .inr (.inr ⟨List.mem_cons_of_mem _ h.1, h.2⟩)

theorem resolve_ne_nil (h : parts ≠ []) : resolve place parts ≠ [] := by
  fun_induction resolve place parts with
  | case1 place => exact absurd rfl h
  | case2 place last hdouble => exact List.cons_ne_nil _ _
  | case3 place last hdouble hdot => exact List.cons_ne_nil _ _
  | case4 place last hdouble hdot => exact List.cons_ne_nil _ _
  | case5 place part parts hne hdouble ih => exact ih fun he => hne he
  | case6 place part parts hne hdouble hdot ih => exact ih fun he => hne he
  | case7 place part parts hne hdouble hdot ih => exact ih fun he => hne he

/-! ## Paths -/

theorem isSegment_nil (k : Kind) : IsSegment k [] := ⟨by simp, by simp, by decide, by decide⟩

theorem isSegment_of_readPath (h : readPath k cs = .segments names) :
    names ≠ [] ∧ ∀ s ∈ names, IsSegment k s := by
  obtain rfl : (resolve [] ((splitSegments k cs).map (escape inPathSet))).reverse = names := by
    simpa [readPath] using h
  have hslash : ∀ c ∈ escapeChars, isSlash k c = false := by
    intro c hc
    have all : ∀ c ∈ escapeChars, c ≠ '/' ∧ c ≠ '\\' := List.all_iff_forall_prop.mp (by decide)
    simp [isSlash, all c hc]
  refine ⟨?_, fun s hs => ?_⟩
  · rw [ne_eq, List.reverse_eq_nil_iff]
    exact resolve_ne_nil (by simpa using splitSegments_ne_nil k cs)
  · rcases mem_resolve (List.mem_reverse.mp hs) with hs | rfl | ⟨hs, hdot, hdouble⟩
    · cases hs
    · exact isSegment_nil k
    · obtain ⟨t, ht, rfl⟩ := List.mem_map.mp hs
      refine ⟨fun c hc => sparesEscapes_inPathSet.of_mem hc, fun c hc => ?_, hdot, hdouble⟩
      rcases mem_escape hc with hc | hc
      · exact whole_of_mem_splitSegments ht c hc.1
      · exact hslash c hc

/-- A path of such segments is read as it is written. -/
theorem readPath_text (hs : IsSegment k s) (h : ∀ s ∈ names, IsSegment k s) :
    readPath k (s ++ names.flatMap ('/' :: ·)) = .segments (s :: names) := by
  have hall : ∀ t ∈ s :: names, IsSegment k t := List.forall_mem_cons.mpr ⟨hs, h⟩
  have hescaped : (s :: names).map (escape inPathSet) = s :: names :=
    (List.map_congr_left fun t ht => escape_eq_self (hall t ht).escaped).trans (List.map_id _)
  rw [readPath, splitSegments_text hs.whole fun t ht => (h t ht).whole, hescaped,
    resolve_plain fun t ht => ⟨(hall t ht).stays, (hall t ht).goes⟩, List.append_nil,
    List.reverse_reverse]

/-- A path after a host. -/
structure IsPath (k : Kind) (path : Path) (names : List (List Char)) : Prop where
  eq : path = .segments names
  isSegment : ∀ s ∈ names, IsSegment k s
  special : k.isSpecial = true → names ≠ []

theorem isPath_of_readPathStart (k : Kind) (cs : List Char) :
    ∃ names, IsPath k (readPathStart k cs) names := by
  have hread (cs : List Char) : ∃ names, IsPath k (readPath k cs) names := by
    obtain ⟨hne, hs⟩ := isSegment_of_readPath (rfl : readPath k cs = _)
    exact ⟨_, rfl, hs, fun _ => hne⟩
  cases cs with
  | nil =>
    cases hk : k.isSpecial with
    | true => exact ⟨[[]], by simp [readPathStart, hk], by simpa using isSegment_nil k, by simp⟩
    | false => exact ⟨[], by simp [readPathStart, hk], by simp, by simp [hk]⟩
  | cons c rest =>
    rw [readPathStart]
    split
    · exact hread rest
    · exact hread (c :: rest)

namespace IsPath

theorem readPathStart_text (h : IsPath k path names) : readPathStart k path.text = path := by
  obtain ⟨rfl, hs, hk⟩ := h
  cases names with
  | nil => simpa [readPathStart, Path.text] using hk
  | cons s names =>
    obtain ⟨hs, hnames⟩ := List.forall_mem_cons.mp hs
    have hslash : isSlash k '/' = true := by simp [isSlash]
    simp only [Path.text, List.flatMap_cons, List.cons_append, readPathStart, hslash, if_true]
    exact readPath_text hs hnames

theorem head_text (h : IsPath k path names) : ∀ c ∈ path.text.head?, c = '/' := by
  obtain ⟨rfl, -, -⟩ := h
  cases names with
  | nil => simp [Path.text]
  | cons s names => simp [Path.text]

theorem escaped (h : IsPath k path names) (hc : c ∈ path.text) : inPathSet c = false := by
  obtain ⟨rfl, hs, -⟩ := h
  obtain ⟨s, hm, hc⟩ := List.mem_flatMap.mp hc
  rcases List.mem_cons.mp hc with rfl | hc
  · decide
  · exact (hs s hm).escaped c hc

end IsPath

end ClusterOperator.Url
