import Mathlib.Data.List.Sort
import ClusterOperator.Text.Composed

/-!
# Marks in order

The marks between two characters of class zero are sorted by class, and those of one class keep
their order. So two texts have the same order of marks if, between the same characters, they have
the same marks of each class.
-/

namespace ClusterOperator.Text

open orderMarks (sorted)

variable {c : Nat} {cs ms ks xs ys us vs ws : List Nat}

/-! ## Runs of marks -/

/-- Marks that can change places. -/
def Marks (ms : List Nat) : Prop := ∀ m ∈ ms, combiningClass m ≠ 0

/-- The marks in the order of their classes. -/
def sortMarks (ms : List Nat) : List Nat :=
  ms.mergeSort fun a b => combiningClass a ≤ combiningClass b

/-- The marks of one class. -/
def ofClass (k : Nat) (ms : List Nat) : List Nat := ms.filter (combiningClass · = k)

theorem pairwise_sortMarks (ms : List Nat) :
    (sortMarks ms).Pairwise fun a b => combiningClass a ≤ combiningClass b := by
  simpa [sortMarks] using @List.pairwise_mergeSort _
    (fun a b => decide (combiningClass a ≤ combiningClass b))
    (fun a b c => by simpa using Nat.le_trans)
    (fun a b => by simpa using Nat.le_total (combiningClass a) (combiningClass b)) ms

theorem mem_sortMarks : c ∈ sortMarks ms ↔ c ∈ ms := (List.mergeSort_perm ms _).mem_iff

theorem Marks.sortMarks (h : Marks ms) : Marks (sortMarks ms) :=
  fun m hm => h m (mem_sortMarks.mp hm)

/-- Sorting is stable. -/
theorem ofClass_sortMarks (k : Nat) (ms : List Nat) : ofClass k (sortMarks ms) = ofClass k ms := by
  have hsub : (ofClass k ms).Sublist (sortMarks ms) := by
    refine List.sublist_mergeSort (fun a b c => by simpa using Nat.le_trans)
      (fun a b => by simpa using Nat.le_total (combiningClass a) (combiningClass b)) ?_
      List.filter_sublist
    refine List.pairwise_iff_forall_sublist.mpr fun {a b} hab => ?_
    have ha := hab.subset (List.mem_cons_self : a ∈ [a, b])
    have hb := hab.subset (List.mem_cons_of_mem a List.mem_cons_self : b ∈ [a, b])
    simp only [ofClass, List.mem_filter, decide_eq_true_eq] at ha hb
    simp [ha.2, hb.2]
  have hself : ofClass k (ofClass k ms) = ofClass k ms := by simp [ofClass]
  have hperm : (ofClass k (sortMarks ms)).Perm (ofClass k ms) :=
    (List.mergeSort_perm ms _).filter _
  exact ((hself ▸ hsub.filter _ : (ofClass k ms).Sublist (ofClass k (sortMarks ms))).eq_of_length
    hperm.length_eq.symm).symm

/-- Sorted marks are told by those of each class. -/
theorem eq_of_ofClass (hx : xs.Pairwise fun a b => combiningClass a ≤ combiningClass b)
    (hy : ys.Pairwise fun a b => combiningClass a ≤ combiningClass b)
    (h : ∀ k, ofClass k xs = ofClass k ys) : xs = ys := by
  induction xs generalizing ys with
  | nil =>
    cases ys with
    | nil => rfl
    | cons y ys => simpa [ofClass] using h (combiningClass y)
  | cons x xs ih =>
    cases ys with
    | nil => simpa [ofClass] using h (combiningClass x)
    | cons y ys =>
      have mem_of {k : Nat} {z : Nat} {zs : List Nat} (hz : z ∈ ofClass k zs) :
          z ∈ zs ∧ combiningClass z = k := by
        simpa [ofClass] using hz
      obtain ⟨hx₁, hxs⟩ := List.pairwise_cons.mp hx
      obtain ⟨hy₁, hys⟩ := List.pairwise_cons.mp hy
      -- the first ones have the least class of all
      have hclass : combiningClass x = combiningClass y := by
        have hxy : x ∈ ofClass (combiningClass x) (y :: ys) := by
          rw [← h]
          simp [ofClass]
        have hyx : y ∈ ofClass (combiningClass y) (x :: xs) := by
          rw [h]
          simp [ofClass]
        have h₁ : combiningClass y ≤ combiningClass x := by
          rcases List.mem_cons.mp (mem_of hxy).1 with rfl | hm
          · exact Nat.le_refl _
          · exact hy₁ x hm
        have h₂ : combiningClass x ≤ combiningClass y := by
          rcases List.mem_cons.mp (mem_of hyx).1 with rfl | hm
          · exact Nat.le_refl _
          · exact hx₁ y hm
        exact Nat.le_antisymm h₂ h₁
      have hfirst := h (combiningClass x)
      simp only [ofClass, List.filter_cons, hclass, decide_true, if_true, List.cons.injEq] at hfirst
      obtain ⟨rfl, -⟩ := hfirst
      refine congrArg _ (ih hxs hys fun k => ?_)
      have := h k
      simp only [ofClass, List.filter_cons] at this ⊢
      split at this
      · exact (List.cons.inj this).2
      · exact this

theorem sortMarks_congr (h : ∀ k, ofClass k xs = ofClass k ys) : sortMarks xs = sortMarks ys :=
  eq_of_ofClass (pairwise_sortMarks xs) (pairwise_sortMarks ys) fun k => by
    rw [ofClass_sortMarks, ofClass_sortMarks, h]

theorem ofClass_append (k : Nat) (xs ys : List Nat) :
    ofClass k (xs ++ ys) = ofClass k xs ++ ofClass k ys := List.filter_append ..

theorem sortMarks_sortMarks (ms : List Nat) : sortMarks (sortMarks ms) = sortMarks ms :=
  sortMarks_congr fun k => ofClass_sortMarks k ms

theorem sortMarks_cons_sortMarks (c : Nat) (ms : List Nat) :
    sortMarks (c :: sortMarks ms) = sortMarks (c :: ms) :=
  sortMarks_congr fun k => by
    rw [← List.singleton_append, ← List.singleton_append (l := ms), ofClass_append, ofClass_append,
      ofClass_sortMarks]

/-- A mark may pass marks of lower classes. -/
theorem sortMarks_pass (h : ∀ k ∈ ks, combiningClass k < combiningClass c) (ms : List Nat) :
    sortMarks (c :: (ks ++ ms)) = sortMarks (ks ++ c :: ms) := by
  refine sortMarks_congr fun k => ?_
  rw [← List.singleton_append, ← List.singleton_append (l := ms), ofClass_append, ofClass_append,
    ofClass_append, ofClass_append]
  by_cases hk : combiningClass c = k
  · have hks : ofClass k ks = [] := by
      rw [ofClass, List.filter_eq_nil_iff]
      intro m hm
      have := h m hm
      simp only [decide_eq_true_eq]
      omega
    simp [hks]
  · simp [ofClass, hk]

/-! ## Whole texts -/

/-- The marks of a text in order. -/
def order (cs : List Nat) : List Nat := orderMarks [] cs

theorem orderMarks_append (h : Marks ms) (ks cs : List Nat) :
    orderMarks ks (ms ++ cs) = orderMarks (ms.reverse ++ ks) cs := by
  induction ms generalizing ks with
  | nil => rfl
  | cons m ms ih =>
    rw [List.cons_append, orderMarks, if_neg (h m List.mem_cons_self),
      ih (fun m hm => h m (List.mem_cons_of_mem _ hm))]
    simp

theorem order_marks (h : Marks ms) : order ms = sortMarks ms := by
  have := orderMarks_append h [] []
  rw [List.append_nil, List.append_nil] at this
  rw [order, this, orderMarks, sorted, List.reverse_reverse, sortMarks]

theorem order_nil : order [] = [] := (order_marks (by simp [Marks])).trans (by simp [sortMarks])

theorem order_starter (h : Marks ms) (hc : combiningClass c = 0) (cs : List Nat) :
    order (ms ++ c :: cs) = sortMarks ms ++ c :: order cs := by
  rw [order, orderMarks_append h, List.append_nil, orderMarks, if_pos hc, sorted,
    List.reverse_reverse, sortMarks, order]

/-- A text is a run of marks, or a run of marks and a starter and a text. -/
theorem blocks_induction {P : List Nat → Prop} (marks : ∀ ms, Marks ms → P ms)
    (starter : ∀ ms c cs, Marks ms → combiningClass c = 0 → P cs → P (ms ++ c :: cs)) (cs : List Nat) :
    P cs := by
  have go (cs : List Nat) : ∀ ms, Marks ms → P (ms ++ cs) := by
    induction cs with
    | nil => intro ms hm; simpa using marks ms hm
    | cons c cs ih =>
      intro ms hm
      by_cases hc : combiningClass c = 0
      · exact starter ms c cs hm hc (ih [] (by simp [Marks]))
      · have hm' : Marks (ms ++ [c]) := by
          intro m hm'
          rcases List.mem_append.mp hm' with hm' | hm'
          · exact hm m hm'
          · rw [List.mem_singleton.mp hm']
            exact hc
        simpa using ih (ms ++ [c]) hm'
  exact go cs [] (by simp [Marks])

theorem mem_order : c ∈ order cs ↔ c ∈ cs := by
  induction cs using blocks_induction with
  | marks ms hm => rw [order_marks hm, mem_sortMarks]
  | starter ms s cs hm hs ih => simp [order_starter hm hs, mem_sortMarks, ih]

theorem order_order (cs : List Nat) : order (order cs) = order cs := by
  induction cs using blocks_induction with
  | marks ms hm => rw [order_marks hm, order_marks hm.sortMarks, sortMarks_sortMarks]
  | starter ms s cs hm hs ih =>
    rw [order_starter hm hs, order_starter hm.sortMarks hs, sortMarks_sortMarks, ih]

theorem Marks.cons (hc : combiningClass c ≠ 0) (h : Marks ms) : Marks (c :: ms) := by
  intro m hm
  rcases List.mem_cons.mp hm with rfl | hm
  · exact hc
  · exact h m hm

theorem Marks.append (h : Marks ks) (h' : Marks ms) : Marks (ks ++ ms) := by
  intro m hm
  rcases List.mem_append.mp hm with hm | hm
  · exact h m hm
  · exact h' m hm

theorem order_cons_starter (hc : combiningClass c = 0) (cs : List Nat) :
    order (c :: cs) = c :: order cs := by
  simpa [sortMarks] using order_starter (show Marks [] by simp [Marks]) hc cs

theorem order_cons_order (c : Nat) (cs : List Nat) : order (c :: order cs) = order (c :: cs) := by
  by_cases hc : combiningClass c = 0
  · rw [order_cons_starter hc, order_cons_starter hc, order_order]
  · induction cs using blocks_induction with
    | marks ms hm =>
      rw [order_marks hm, order_marks (hm.sortMarks.cons hc), order_marks (hm.cons hc),
        sortMarks_cons_sortMarks]
    | starter ms s cs hm hs ih =>
      rw [order_starter hm hs, ← List.cons_append, ← List.cons_append,
        order_starter (hm.sortMarks.cons hc) hs, order_starter (hm.cons hc) hs, order_order,
        sortMarks_cons_sortMarks]

theorem order_append_order (us vs : List Nat) : order (us ++ order vs) = order (us ++ vs) := by
  induction us with
  | nil => exact order_order vs
  | cons u us ih =>
    rw [List.cons_append, List.cons_append, ← order_cons_order, ih, order_cons_order]

theorem order_append_congr (us : List Nat) (h : order vs = order ws) :
    order (us ++ vs) = order (us ++ ws) := by
  rw [← order_append_order us vs, h, order_append_order]

/-- What comes before a starter is put in order apart from what comes after it. -/
theorem order_append_starter (hc : combiningClass c = 0) (us vs : List Nat) :
    order (us ++ c :: vs) = order us ++ c :: order vs := by
  induction us using blocks_induction with
  | marks ms hm => rw [order_starter hm hc, order_marks hm]
  | starter ms s us hm hs ih =>
    rw [List.append_assoc, List.cons_append, order_starter hm hs, order_starter hm hs, ih]
    simp

theorem order_pass (hc : combiningClass c ≠ 0) (hk : Marks ks)
    (h : ∀ k ∈ ks, combiningClass k < combiningClass c) (cs : List Nat) :
    order (c :: (ks ++ cs)) = order (ks ++ c :: cs) := by
  induction cs using blocks_induction with
  | marks ms hm =>
    rw [order_marks ((hk.append hm).cons hc), order_marks (hk.append (hm.cons hc)), sortMarks_pass h]
  | starter ms s cs hm hs _ =>
    have h₁ : c :: (ks ++ (ms ++ s :: cs)) = c :: (ks ++ ms) ++ s :: cs := by simp
    have h₂ : ks ++ c :: (ms ++ s :: cs) = ks ++ c :: ms ++ s :: cs := by simp
    rw [h₁, h₂, order_starter ((hk.append hm).cons hc) hs,
      order_starter (hk.append (hm.cons hc)) hs, sortMarks_pass h]

/-! ## Texts in order -/

/-- The marks that come first. -/
def run (cs : List Nat) : List Nat := cs.takeWhile (combiningClass · ≠ 0)

/-- Each run of marks is in order. -/
def Tidy : List Nat → Prop
  | [] => True
  | c :: cs => (∀ m ∈ run cs, combiningClass c ≤ combiningClass m) ∧ Tidy cs

theorem tidy_sorted (h : ms.Pairwise fun a b => combiningClass a ≤ combiningClass b) : Tidy ms := by
  induction ms with
  | nil => trivial
  | cons m ms ih =>
    obtain ⟨hm, hms⟩ := List.pairwise_cons.mp h
    exact ⟨fun k hk => hm k ((List.takeWhile_sublist _).subset hk), ih hms⟩

theorem tidy_append (h : ms.Pairwise fun a b => combiningClass a ≤ combiningClass b)
    (hc : combiningClass c = 0) (hcs : Tidy (c :: cs)) : Tidy (ms ++ c :: cs) := by
  induction ms with
  | nil => exact hcs
  | cons m ms ih =>
    obtain ⟨hm, hms⟩ := List.pairwise_cons.mp h
    have hrun : run (ms ++ c :: cs) = run ms := by
      simp only [run, List.takeWhile_append, List.takeWhile_cons, hc, ne_eq, not_true_eq_false,
        decide_false, if_false, List.append_nil, Bool.false_eq_true, ite_eq_right_iff]
      exact fun h => ((List.takeWhile_sublist _).eq_of_length h).symm
    refine ⟨fun k hk => hm k ?_, ih hms⟩
    have hk : k ∈ run ms := hrun ▸ hk
    exact (List.takeWhile_sublist _).subset hk

theorem tidy_order (cs : List Nat) : Tidy (order cs) := by
  induction cs using blocks_induction with
  | marks ms hm => rw [order_marks hm]; exact tidy_sorted (pairwise_sortMarks ms)
  | starter ms s cs hm hs ih =>
    rw [order_starter hm hs]
    exact tidy_append (pairwise_sortMarks ms) hs ⟨fun k _ => by omega, ih⟩

end ClusterOperator.Text
