import ClusterOperator.Proofs.Text.Composites
import ClusterOperator.Proofs.Text.Marks

/-!
# Composed text

Text in composed form stays as it is when it is composed again: what is put together can be taken
apart, and the marks that it has passed go back to their places. A dot is never put together with
anything, so that what it separates is composed apart.
-/

namespace ClusterOperator.Text

variable {c starter : Nat} {cs kept rest us vs ws : List Nat}

/-- What the characters of a text stand for. -/
def flatten (cs : List Nat) : List Nat := cs.flatMap partsOf

theorem flatten_append (us vs : List Nat) : flatten (us ++ vs) = flatten us ++ flatten vs :=
  List.flatMap_append

theorem flatten_cons (c : Nat) (cs : List Nat) : flatten (c :: cs) = partsOf c ++ flatten cs :=
  List.flatMap_cons

theorem flatten_atoms (h : ∀ c ∈ cs, Atom c) : flatten cs = cs := by
  induction cs with
  | nil => rfl
  | cons c cs ih =>
    rw [flatten_cons, (h c List.mem_cons_self).partsOf_eq,
      ih fun d hd => h d (List.mem_cons_of_mem _ hd), List.singleton_append]

theorem atom_of_mem_flatten (hc : c ∈ flatten cs) : Atom c := by
  obtain ⟨n, -, hn⟩ := List.mem_flatMap.mp hc
  exact atom_of_mem_partsOf hn

/-- Puts the characters of a text together, each with those that follow it. -/
def joinAll : List Nat → List Nat
  | [] => []
  | c :: cs => joinFrom c [] cs

theorem composed_eq (cs : List Nat) : composed cs = joinAll (order (flatten cs)) := by
  unfold composed order flatten
  cases orderMarks [] (cs.flatMap partsOf) <;> rfl

/-! ## Putting together -/

/-- Marks that are left over, the last one first, have no class above that of the last one. -/
def Kept (kept : List Nat) : Prop :=
  Marks kept ∧ ∀ k ∈ kept, ∀ last ∈ kept.head?, combiningClass k ≤ combiningClass last

theorem joinFrom_joined {joined : Nat}
    (hh : ¬ kept.head?.any fun last => combiningClass c ≤ combiningClass last)
    (hj : join? starter c = some joined) :
    joinFrom starter kept (c :: cs) = joinFrom joined kept cs := by
  simp only [Bool.not_eq_true] at hh
  simp only [joinFrom, hh, hj, Bool.false_eq_true, if_false]

/-- A character that is not put together with the starter. -/
theorem joinFrom_apart
    (h : (kept.head?.any fun last => combiningClass c ≤ combiningClass last) = true ∨
      join? starter c = none) :
    joinFrom starter kept (c :: cs) =
      if combiningClass c = 0 then starter :: kept.reverse ++ joinFrom c [] cs
      else joinFrom starter (c :: kept) cs := by
  rw [joinFrom]
  rcases h with h | h
  · simp only [h, if_true]
  · simp only [h, ite_self]

/-- A mark that is not hidden is above all that are left over. -/
theorem Kept.lt (hk : Kept kept)
    (hhidden : ¬ (kept.head?.any fun last => combiningClass c ≤ combiningClass last) = true) :
    ∀ k ∈ kept, combiningClass k < combiningClass c := by
  intro k hkm
  obtain ⟨last, ms, rfl⟩ := List.exists_cons_of_ne_nil (List.ne_nil_of_mem hkm)
  have hpassed : combiningClass last < combiningClass c := by simpa using hhidden
  exact Nat.lt_of_le_of_lt (hk.2 k hkm last rfl) hpassed

/-- What is put together with a starter may pass the marks that are left over. -/
theorem order_join_past {joined : Nat} (hk : Kept kept)
    (hlt : ∀ k ∈ kept, combiningClass k < combiningClass c) (hj : join? starter c = some joined)
    (cs : List Nat) :
    order (partsOf joined ++ kept.reverse ++ cs) =
      order (partsOf starter ++ kept.reverse ++ c :: cs) := by
  rw [partsOf_join hj, List.append_assoc, List.append_assoc, List.append_assoc]
  refine order_append_congr _ ?_
  cases kept with
  | nil => rfl
  | cons k ks =>
    have hk₀ := hlt k List.mem_cons_self
    refine order_pass (by omega) (fun m hm => hk.1 m (List.mem_reverse.mp hm)) ?_ cs
    exact fun m hm => hlt m (List.mem_reverse.mp hm)

/-- What is put together stands for the same marks in order. -/
theorem order_flatten_joinFrom (hrest : ∀ c ∈ rest, Atom c) (hkept : ∀ c ∈ kept, Atom c)
    (hk : Kept kept) (ht : Tidy rest)
    (hr : ∀ k ∈ kept, ∀ m ∈ run rest, combiningClass k ≤ combiningClass m) :
    order (flatten (joinFrom starter kept rest)) =
      order (partsOf starter ++ kept.reverse ++ rest) := by
  have hflat {kept : List Nat} (hkept : ∀ c ∈ kept, Atom c) : flatten kept.reverse = kept.reverse :=
    flatten_atoms fun c hc => hkept c (List.mem_reverse.mp hc)
  induction rest generalizing starter kept with
  | nil => rw [joinFrom, flatten_cons, hflat hkept, List.append_nil]
  | cons c cs ih =>
    have hcs : ∀ c ∈ cs, Atom c := fun d hd => hrest d (List.mem_cons_of_mem _ hd)
    have hc : Atom c := hrest c List.mem_cons_self
    have hrun (hzero : combiningClass c ≠ 0) : run (c :: cs) = c :: run cs := by simp [run, hzero]
    by_cases hjoin : (kept.head?.any fun last => combiningClass c ≤ combiningClass last) = true ∨
        join? starter c = none
    · rw [joinFrom_apart hjoin]
      by_cases hzero : combiningClass c = 0
      · -- a new starter
        rw [if_pos hzero, List.cons_append, flatten_cons, flatten_append, hflat hkept,
          ← List.append_assoc]
        refine order_append_congr _ ?_
        have hnew : order (flatten (joinFrom c [] cs)) = order (partsOf c ++ [].reverse ++ cs) :=
          ih hcs (by simp) ⟨by simp [Marks], by simp⟩ ht.2 (by simp)
        rw [hnew, hc.partsOf_eq]
        rfl
      · -- a mark that is left over
        rw [if_neg hzero, ih hcs ?_ ⟨hk.1.cons hzero, ?_⟩ ht.2 ?_]
        · simp
        · intro d hd
          rcases List.mem_cons.mp hd with rfl | hd
          · exact hc
          · exact hkept d hd
        · intro k hkm last hlast
          obtain rfl : c = last := by simpa using hlast
          rcases List.mem_cons.mp hkm with rfl | hkm
          · exact Nat.le_refl _
          · exact hr k hkm c (by simp [hrun hzero])
        · intro k hkm m hm
          rcases List.mem_cons.mp hkm with rfl | hkm
          · exact ht.1 m hm
          · exact hr k hkm m (by simp [hrun hzero, hm])
    · -- a character that is put together with the starter
      obtain ⟨hhidden, hsome⟩ := not_or.mp hjoin
      obtain ⟨joined, hjoined⟩ := Option.ne_none_iff_exists'.mp hsome
      have hlt := hk.lt hhidden
      rw [joinFrom_joined hhidden hjoined, ih hcs hkept hk ht.2 fun k hkm m hm => ?_,
        order_join_past hk hlt hjoined]
      have hk₀ := hlt k hkm
      exact hr k hkm m (by simp [hrun (by omega), hm])

theorem order_flatten_joinAll (hcs : ∀ c ∈ cs, Atom c) (ht : Tidy cs) :
    order (flatten (joinAll cs)) = order cs := by
  cases cs with
  | nil => rfl
  | cons c cs =>
    rw [joinAll, order_flatten_joinFrom (fun d hd => hcs d (List.mem_cons_of_mem _ hd)) (by simp)
      ⟨by simp [Marks], by simp⟩ ht.2 (by simp), (hcs c List.mem_cons_self).partsOf_eq]
    rfl

/-- The composed form of a text stands for the same as the text. -/
theorem order_flatten_composed (cs : List Nat) :
    order (flatten (composed cs)) = order (flatten cs) := by
  rw [composed_eq, order_flatten_joinAll (fun c hc => atom_of_mem_flatten (mem_order.mp hc))
    (tidy_order _), order_order]

theorem composed_composed (cs : List Nat) : composed (composed cs) = composed cs := by
  rw [composed_eq (composed cs), order_flatten_composed, ← composed_eq]

/-! ## Dots -/

/-- What a text that follows something that nothing is put together with becomes. -/
def joinRest : List Nat → List Nat
  | [] => []
  | c :: cs => if combiningClass c = 0 then joinFrom c [] cs else c :: joinRest cs

theorem joinFrom_alone (h : ∀ c, join? starter c = none) :
    joinFrom starter kept rest = starter :: kept.reverse ++ joinRest rest := by
  induction rest generalizing kept with
  | nil => simp [joinFrom, joinRest]
  | cons c cs ih =>
    rw [joinFrom_apart (.inr (h c)), joinRest]
    by_cases hc : combiningClass c = 0
    · rw [if_pos hc, if_pos hc]
    · rw [if_neg hc, if_neg hc, ih]
      simp

theorem joinAll_eq_joinRest (cs : List Nat) : joinAll cs = joinRest cs := by
  cases cs with
  | nil => rfl
  | cons c cs =>
    rw [joinAll, joinRest]
    by_cases hc : combiningClass c = 0
    · rw [if_pos hc]
    · have hnone (d : Nat) : join? c d = none := by
        cases hj : join? c d with
        | none => rfl
        | some j => exact absurd (starter_of_join hj) hc
      rw [if_neg hc, joinFrom_alone hnone]
      rfl

/-- The dot between labels. -/
def dot : Nat := 0x2E

theorem combiningClass_ascii (h : c < 0x300) : combiningClass c = 0 := by
  rw [combiningClass, if_pos h]

theorem join?_dot (c : Nat) : join? dot c = none := by
  cases hj : join? dot c with
  | none => rfl
  | some j => exact absurd (afterDot_of_join hj) (Nat.lt_irrefl _)

theorem joinFrom_dot (us vs : List Nat) :
    joinFrom starter kept (us ++ dot :: vs) = joinFrom starter kept us ++ dot :: joinAll vs := by
  have hzero : combiningClass dot = 0 := combiningClass_ascii (by decide)
  induction us generalizing starter kept with
  | nil =>
    rw [List.nil_append, joinFrom_apart (.inr (join?_eq_none starter (by decide))), if_pos hzero,
      joinFrom_alone join?_dot, joinAll_eq_joinRest]
    simp [joinFrom]
  | cons u us ih =>
    rw [List.cons_append]
    by_cases hjoin : (kept.head?.any fun last => combiningClass u ≤ combiningClass last) = true ∨
        join? starter u = none
    · rw [joinFrom_apart hjoin, joinFrom_apart hjoin, ih, ih]
      split <;> simp
    · obtain ⟨hhidden, hsome⟩ := not_or.mp hjoin
      obtain ⟨joined, hjoined⟩ := Option.ne_none_iff_exists'.mp hsome
      rw [joinFrom_joined hhidden hjoined, joinFrom_joined hhidden hjoined, ih]

/-- What a dot separates is composed apart. -/
theorem composed_dot (us vs : List Nat) :
    composed (us ++ dot :: vs) = composed us ++ dot :: composed vs := by
  have hzero : combiningClass dot = 0 := combiningClass_ascii (by decide)
  have hdot : partsOf dot = [dot] := (atom_of_ascii (by decide)).partsOf_eq
  rw [composed_eq, flatten_append, flatten_cons, hdot, List.singleton_append,
    order_append_starter hzero, composed_eq, composed_eq]
  cases order (flatten us) with
  | nil =>
    have hstart : joinAll (dot :: order (flatten vs)) = dot :: joinRest (order (flatten vs)) :=
      joinFrom_alone join?_dot
    rw [List.nil_append, hstart, ← joinAll_eq_joinRest]
    rfl
  | cons c cs => rw [List.cons_append, joinAll, joinFrom_dot, joinAll]

/-! ## Characters of composed text -/

/-- What holds of characters if it holds of their parts, and of those that they are parts of, holds
of a composed text. -/
theorem forall_mem_joinFrom {P : Nat → Prop} (hjoin : ∀ a b c, join? a b = some c → P a → P b → P c)
    (hs : P starter) (hk : ∀ c ∈ kept, P c) (hr : ∀ c ∈ rest, P c) :
    ∀ c ∈ joinFrom starter kept rest, P c := by
  induction rest generalizing starter kept with
  | nil =>
    intro c hc
    rw [joinFrom] at hc
    rcases List.mem_cons.mp hc with rfl | hc
    · exact hs
    · exact hk c (List.mem_reverse.mp hc)
  | cons c cs ih =>
    have hc : P c := hr c List.mem_cons_self
    have hcs : ∀ c ∈ cs, P c := fun d hd => hr d (List.mem_cons_of_mem _ hd)
    by_cases hapart : (kept.head?.any fun last => combiningClass c ≤ combiningClass last) = true ∨
        join? starter c = none
    · rw [joinFrom_apart hapart]
      split
      · intro d hd
        rcases List.mem_append.mp hd with hd | hd
        · rcases List.mem_cons.mp hd with rfl | hd
          · exact hs
          · exact hk d (List.mem_reverse.mp hd)
        · exact ih hc (by simp) hcs d hd
      · refine ih hs (fun d hd => ?_) hcs
        rcases List.mem_cons.mp hd with rfl | hd
        · exact hc
        · exact hk d hd
    · obtain ⟨hhidden, hsome⟩ := not_or.mp hapart
      obtain ⟨joined, hjoined⟩ := Option.ne_none_iff_exists'.mp hsome
      rw [joinFrom_joined hhidden hjoined]
      exact ih (hjoin _ _ _ hjoined hs hc) hk hcs

theorem forall_mem_composed {P : Nat → Prop} (hjoin : ∀ a b c, join? a b = some c → P a → P b → P c)
    (hparts : ∀ n, P n → ∀ e ∈ partsOf n, P e) (h : ∀ c ∈ cs, P c) : ∀ c ∈ composed cs, P c := by
  have hflat : ∀ c ∈ order (flatten cs), P c := by
    intro c hc
    obtain ⟨n, hn, he⟩ := List.mem_flatMap.mp (mem_order.mp hc)
    exact hparts n (h n hn) c he
  rw [composed_eq]
  cases ho : order (flatten cs) with
  | nil => simp [joinAll]
  | cons c cs =>
    rw [ho] at hflat
    exact forall_mem_joinFrom hjoin (hflat c List.mem_cons_self) (by simp)
      fun d hd => hflat d (List.mem_cons_of_mem _ hd)

/-- A kind of characters that goes from the parts to the whole and back. -/
structure Closed (P : Nat → Prop) : Prop where
  pair : ∀ {a b c}, Composes a b c → (P c ↔ P a ∧ P b)
  letter : ∀ {n}, IsLetter n → P n
  syllable : ∀ {n}, Hangul.isSyllable n = true → P n

theorem Closed.forall_mem {P : Nat → Prop} (hP : Closed P) (h : ∀ c ∈ cs, P c) :
    ∀ c ∈ composed cs, P c := by
  refine forall_mem_composed (fun a b c hj ha hb => ?_) (fun n hn => ?_) h
  · rcases (join?_cases hj).2 with hj | hj
    · exact hP.syllable (isSyllable_of_hangulJoin hj)
    · exact (hP.pair hj).mpr ⟨ha, hb⟩
  · exact forall_mem_partsOf (fun hc => (hP.pair hc).mp) hP.letter hn

theorem closed_ne_dot : Closed (· ≠ dot) where
  pair h := by
    have hc := h.facts.high
    have ha := h.facts.afterDot
    have hb := h.facts.secondHigh
    unfold dot
    omega
  letter h := by
    unfold IsLetter at h
    unfold dot
    omega
  syllable h := by
    have := isSyllable_iff.mp h
    unfold dot
    omega

/-- What stands between dots is composed if the whole is. -/
theorem composed_of_dot {us vs : List Nat} (hu : dot ∉ us)
    (h : composed (us ++ dot :: vs) = us ++ dot :: vs) : composed us = us ∧ composed vs = vs := by
  have hfree : dot ∉ composed us := fun hm =>
    closed_ne_dot.forall_mem (fun c hc he => hu (he ▸ hc)) dot hm rfl
  rw [composed_dot] at h
  have htake := congrArg (List.takeWhile (· ≠ dot)) h
  have hdrop := congrArg (List.dropWhile (· ≠ dot)) h
  have hall {ws : List Nat} (hw : dot ∉ ws) : ∀ c ∈ ws, decide (c ≠ dot) = true := fun c hc =>
    decide_eq_true fun he => hw (he ▸ hc)
  rw [List.takeWhile_append_of_pos (hall hfree), List.takeWhile_append_of_pos (hall hu)] at htake
  rw [List.dropWhile_append_of_pos (hall hfree), List.dropWhile_append_of_pos (hall hu)] at hdrop
  exact ⟨by simpa using htake, by simpa using hdrop⟩

/-- A text whose characters all stay as they are is composed. -/
theorem composed_inert (h : ∀ c ∈ cs, Inert c) : composed cs = cs := by
  have hflat : flatten cs = cs := flatten_atoms fun c hc => (h c hc).atom
  have horder : order cs = cs := by
    clear hflat
    induction cs with
    | nil => exact order_nil
    | cons c cs ih =>
      rw [order_cons_starter (h c List.mem_cons_self).starter,
        ih fun d hd => h d (List.mem_cons_of_mem _ hd)]
  have hjoin (cs : List Nat) (h : ∀ c ∈ cs, Inert c) (starter : Nat) :
      joinFrom starter [] cs = starter :: cs := by
    induction cs generalizing starter with
    | nil => rfl
    | cons c cs ih =>
      have hc := h c List.mem_cons_self
      rw [joinFrom_apart (.inr (hc.apart starter)), if_pos hc.starter,
        ih fun d hd => h d (List.mem_cons_of_mem _ hd)]
      rfl
  rw [composed_eq, hflat, horder]
  cases cs with
  | nil => rfl
  | cons c cs => exact hjoin cs (fun d hd => h d (List.mem_cons_of_mem _ hd)) c

end ClusterOperator.Text
