import Mathlib.Data.List.TakeWhile
import ClusterOperator.Text.Table

/-!
# Tables of code points

A table whose rows are apart and in order gives each code point the row that covers it. What a
table holds is told from its text row by row, and looked up in a tree of the rows.
-/

namespace ClusterOperator.Text

variable {t : Table} {rows : List Row} {r : Row} {n low high : Nat}

namespace Row

/-- The code points that a row is for. -/
def Covers (r : Row) (n : Nat) : Prop := r.first ≤ n ∧ n ≤ r.last

end Row

namespace Table

/-! ## Searching -/

/-- The rows are apart and in order. -/
def InOrder (t : Table) : Prop :=
  (∀ r ∈ t.toList, r.first ≤ r.last) ∧ t.toList.Pairwise fun r s => r.last < s.first

theorem search_covers (h : t.search n low high = some r) : r ∈ t.toList ∧ r.Covers n := by
  induction low, high using search.induct t n with
  | case1 low high hlt middle hn => grind [search]
  | case2 low high hlt middle row hrow hlow ih =>
    rw [search, if_pos hlt] at h
    simp only [middle] at hrow
    simp only [hrow, hlow, if_true] at h
    exact ih h
  | case3 low high hlt middle row hrow hlow hhigh ih =>
    rw [search, if_pos hlt] at h
    simp only [middle] at hrow
    simp only [hrow, hlow, hhigh, if_true, if_false] at h
    exact ih h
  | case4 low high hlt middle row hrow hlow hhigh =>
    rw [search, if_pos hlt] at h
    simp only [middle] at hrow
    simp only [hrow, hlow, hhigh, if_false, Option.some.injEq] at h
    subst h
    exact ⟨by simpa using Array.mem_of_getElem? hrow, Nat.le_of_not_lt hlow, Nat.le_of_not_lt hhigh⟩
  | case5 low high hlt => rw [search, if_neg hlt] at h; cases h

theorem row?_covers (h : t.row? n = some r) : r ∈ t.toList ∧ r.Covers n := search_covers h

/-- A row between the two places is found. -/
theorem search_of_covers {i : Nat} (ht : t.InOrder) (hi : t[i]? = some r) (hc : r.Covers n)
    (hl : low ≤ i) (hh : i < high) (hs : high ≤ t.size) : t.search n low high = some r := by
  have apart {a b : Nat} {r s : Row} (ha : t[a]? = some r) (hb : t[b]? = some s) (hab : a < b) :
      r.last < s.first := by
    obtain ⟨_, ha⟩ := Array.getElem?_eq_some_iff.mp ha
    obtain ⟨hb', hb⟩ := Array.getElem?_eq_some_iff.mp hb
    have := List.pairwise_iff_getElem.mp ht.2 a b (by simp; omega) (by simpa using hb') hab
    simpa [ha, hb] using this
  have upright {a : Nat} {r : Row} (ha : t[a]? = some r) : r.first ≤ r.last :=
    ht.1 r (by simpa using Array.mem_of_getElem? ha)
  obtain ⟨hf, hla⟩ := hc
  induction low, high using search.induct t n with
  | case1 low high hlt middle hn =>
    have := Array.getElem?_eq_none_iff.mp hn
    omega
  | case2 low high hlt middle row hrow hlow ih =>
    rw [search, if_pos hlt]
    simp only [middle] at hrow ih
    simp only [hrow, hlow, if_true]
    refine ih hl (Nat.lt_of_not_le fun hm => ?_) (by omega)
    rcases Nat.lt_or_eq_of_le hm with hm | hm
    · have := apart hrow hi hm
      have := upright hrow
      omega
    · rw [hm, hi, Option.some.injEq] at hrow
      subst hrow
      omega
  | case3 low high hlt middle row hrow hlow hhigh ih =>
    rw [search, if_pos hlt]
    simp only [middle] at hrow ih
    simp only [hrow, hlow, hhigh, if_true, if_false]
    refine ih (Nat.lt_of_not_le fun hm => ?_) hh hs
    rcases Nat.lt_or_eq_of_le hm with hm | hm
    · have := apart hi hrow hm
      omega
    · rw [← hm, hi, Option.some.injEq] at hrow
      subst hrow
      omega
  | case4 low high hlt middle row hrow hlow hhigh =>
    rw [search, if_pos hlt]
    simp only [middle] at hrow
    simp only [hrow, hlow, hhigh, if_false, Option.some.injEq]
    rcases Nat.lt_trichotomy i ((low + high) / 2) with hm | hm | hm
    · have := apart hi hrow hm
      omega
    · rw [← hm, hi, Option.some.injEq] at hrow
      exact hrow.symm
    · have := apart hrow hi hm
      omega
  | case5 low high hlt => omega

theorem row?_of_covers (ht : t.InOrder) (hr : r ∈ t.toList) (hc : r.Covers n) :
    t.row? n = some r := by
  obtain ⟨i, hi, rfl⟩ := List.getElem_of_mem hr
  exact search_of_covers ht (by simp) hc (Nat.zero_le i) (by simpa using hi) (Nat.le_refl _)

theorem holds_iff (ht : t.InOrder) : t.holds n = true ↔ ∃ r ∈ t.toList, r.Covers n := by
  constructor
  · intro h
    obtain ⟨r, hr⟩ := Option.isSome_iff_exists.mp h
    exact ⟨r, row?_covers hr⟩
  · rintro ⟨r, hr, hc⟩
    simp [holds, row?_of_covers ht hr hc]

theorem row?_eq_none (h : ∀ r ∈ t.toList, ¬ r.Covers n) : t.row? n = none := by
  cases hr : t.row? n with
  | none => rfl
  | some r => exact absurd (row?_covers hr).2 (h r (row?_covers hr).1)

theorem holds_eq_false (h : t.row? n = none) : t.holds n = false := by simp [holds, h]

theorem value?_eq_none (h : t.row? n = none) : t.value? n = none := by simp [value?, h]

theorem value?_of_covers (ht : t.InOrder) (hr : r ∈ t.toList) (hc : r.Covers n) :
    t.value? n = r.value? n := by
  simp [value?, row?_of_covers ht hr hc]

theorem value?_cases (t : Table) (n : Nat) :
    t.value? n = none ∨ ∃ r ∈ t.toList, r.Covers n ∧ t.value? n = r.value? n := by
  cases hr : t.row? n with
  | none => exact .inl (by simp [value?, hr])
  | some r => exact .inr ⟨r, (row?_covers hr).1, (row?_covers hr).2, by simp [value?, hr]⟩

/-! ## Reading -/

/-- The characters that end the code points of a row. -/
def isMarkOfRow (c : Char) : Bool := c = '=' || c = '>' || c = '~'

/-- What has been read of a row. -/
inductive Part where
  | first (n : Nat)
  /-- After the hyphen, with the number that has been read since. -/
  | last (first : Nat) (n? : Option Nat)
  /-- After a mark, with the values before the one that is being read. -/
  | values (first last : Nat) (mark : Char) (seen : List Nat) (n? : Option Nat)

namespace Part

def addDigit (n? : Option Nat) (c : Char) : Option Nat := some (n?.getD 0 * 16 + digit c)

def step : Part → Char → Part
  | first n, c =>
    if isMarkOfRow c then values n n c [] none
    else if c = '-' then last n none
    else first (n * 16 + digit c)
  | last m n?, c =>
    if isMarkOfRow c then values m (n?.getD m) c [] none else last m (addDigit n? c)
  | values m n mark seen v?, c =>
    if c = '.' then values m n mark (v?.getD 0 :: seen) (some 0)
    else values m n mark seen (addDigit v? c)

def row : Part → Row
  | first n => ⟨n, n, .nothing, []⟩
  | last m n? => ⟨m, n?.getD m, .nothing, []⟩
  | values m n mark seen v? =>
    if mark = '=' then
      ⟨m, n, .values, match v? with
        | none => []
        | some v => (v :: seen).reverse⟩
    else if mark = '>' then ⟨m, n, .run, (v?.getD 0 :: seen).reverse⟩
    else ⟨m, n, .pairs, []⟩

end Part

/-- The rows of a text. `part?` holds what has been read of the first one. -/
def rowsFrom (part? : Option Part) : List Char → List Row
  | [] => part?.toList.map Part.row
  | c :: cs =>
    if c = ' ' ∨ c = '\n' then
      match part? with
      | none => rowsFrom none cs
      | some part => part.row :: rowsFrom none cs
    else rowsFrom (some ((part?.getD (.first 0)).step c)) cs

section Rows
variable {cs ds : List Char}

theorem foldl_step_first (h : ∀ c ∈ cs, isMarkOfRow c = false ∧ c ≠ '-') (n : Nat) :
    cs.foldl Part.step (.first n) = .first (cs.foldl (fun n c => n * 16 + digit c) n) := by
  induction cs generalizing n with
  | nil => rfl
  | cons c cs ih =>
    obtain ⟨hm, hd⟩ := h c List.mem_cons_self
    simp only [List.foldl_cons, Part.step, hm, hd, Bool.false_eq_true, if_false]
    exact ih (fun d hd => h d (List.mem_cons_of_mem _ hd)) _

theorem foldl_step_last (h : ∀ c ∈ cs, isMarkOfRow c = false) (m : Nat) (n? : Option Nat) :
    cs.foldl Part.step (.last m n?) =
      .last m (if cs.isEmpty then n? else some (cs.foldl (fun n c => n * 16 + digit c) (n?.getD 0))) := by
  induction cs generalizing n? with
  | nil => rfl
  | cons c cs ih =>
    simp only [List.foldl_cons, Part.step, h c List.mem_cons_self, Bool.false_eq_true, if_false]
    rw [ih fun d hd => h d (List.mem_cons_of_mem _ hd)]
    cases cs <;> rfl

/-- Values with dots between them, as they are read. -/
def dotted (state : List Nat × Nat) (cs : List Char) : List Nat × Nat :=
  cs.foldl (fun (seen, n) c => if c = '.' then (n :: seen, 0) else (seen, n * 16 + digit c)) state

theorem foldl_step_values (m n : Nat) (mark : Char) (seen : List Nat) (v? : Option Nat)
    (cs : List Char) :
    cs.foldl Part.step (.values m n mark seen v?) =
      .values m n mark (dotted (seen, v?.getD 0) cs).1
        (if cs.isEmpty then v? else some (dotted (seen, v?.getD 0) cs).2) := by
  induction cs generalizing seen v? with
  | nil => rfl
  | cons c cs ih =>
    simp only [List.foldl_cons, Part.step]
    by_cases hc : c = '.'
    · rw [if_pos hc, ih]
      cases cs <;> simp [dotted, hc]
    · rw [if_neg hc, ih]
      cases cs <;> simp [dotted, hc, Part.addDigit]

/-- The code points of a row, before its mark. -/
theorem foldl_step_span (h : ∀ c ∈ cs, isMarkOfRow c = false) :
    ∃ first last, first = ofHex (splitAt '-' cs).1 ∧
      last = (if (splitAt '-' cs).2.isEmpty then first else ofHex (splitAt '-' cs).2) ∧
      (cs.foldl Part.step (.first 0)).row = ⟨first, last, .nothing, []⟩ ∧
      ∀ mark, isMarkOfRow mark = true →
        (cs.foldl Part.step (.first 0)).step mark = .values first last mark [] none := by
  have hsplit := List.takeWhile_append_dropWhile (p := (· ≠ '-')) (l := cs)
  have hhead := List.head?_dropWhile_not (· ≠ '-') cs
  have hall : ∀ c ∈ cs.takeWhile (· ≠ '-'), c ≠ '-' := fun c hc => by
    simpa using List.mem_takeWhile_imp hc
  unfold splitAt
  generalize cs.takeWhile (· ≠ '-') = front at hsplit hall ⊢
  generalize cs.dropWhile (· ≠ '-') = back at hsplit hhead ⊢
  subst hsplit
  have hfront : front.foldl Part.step (.first 0) = .first (ofHex front) :=
    foldl_step_first (fun c hc => ⟨h c (List.mem_append_left _ hc), hall c hc⟩) 0
  rw [List.foldl_append, hfront]
  cases back with
  | nil => exact ⟨_, _, rfl, rfl, rfl, fun mark hm => by simp [Part.step, hm]⟩
  | cons d ds =>
    obtain rfl : d = '-' := by simpa using hhead
    have hds : ∀ c ∈ ds, isMarkOfRow c = false := fun c hc =>
      h c (List.mem_append_right _ (List.mem_cons_of_mem _ hc))
    have hstep : (Part.first (ofHex front)).step '-' = .last (ofHex front) none := rfl
    rw [List.foldl_cons, hstep, foldl_step_last hds]
    refine ⟨_, _, rfl, rfl, ?_, fun mark hm => ?_⟩
    · cases ds <;> rfl
    · cases ds <;> simp [Part.step, hm, ofHex]

theorem readRow_eq (cs : List Char) : readRow cs = (cs.foldl Part.step (.first 0)).row := by
  have hmark (c : Char) : (!(['=', '>', '~'].contains c)) = !isMarkOfRow c := by
    simp [isMarkOfRow, Bool.or_assoc]
  have hsplit := List.takeWhile_append_dropWhile (p := (!isMarkOfRow ·)) (l := cs)
  have hhead := List.head?_dropWhile_not (!isMarkOfRow ·) cs
  have hall : ∀ c ∈ cs.takeWhile (!isMarkOfRow ·), isMarkOfRow c = false := fun c hc => by
    simpa using List.mem_takeWhile_imp hc
  unfold readRow
  simp only [hmark]
  generalize cs.takeWhile (!isMarkOfRow ·) = span at hsplit hall ⊢
  generalize cs.dropWhile (!isMarkOfRow ·) = after at hsplit hhead
  subst hsplit
  obtain ⟨first, last, hfirst, hlast, hrow, hstep⟩ := foldl_step_span hall
  rw [List.drop_left' rfl, List.foldl_append, ← hfirst, ← hlast]
  cases after with
  | nil => exact hrow.symm
  | cons mark values =>
    have hm : isMarkOfRow mark = true := by simpa using hhead
    rw [List.foldl_cons, hstep mark hm, foldl_step_values]
    simp only [isMarkOfRow, Bool.or_eq_true, decide_eq_true_eq] at hm
    rcases hm with (rfl | rfl) | rfl
    · cases values <;> rfl
    · cases values <;> rfl
    · rfl

end Rows

theorem toList_ofText (cs : List Char) : (ofText (String.ofList cs)).toList = rowsFrom none cs := by
  let step : Table × List Char → Char → Table × List Char := fun (rows, row) c =>
    if c = ' ' ∨ c = '\n' then
      (if row.isEmpty then (rows, []) else (rows.push (readRow row.reverse), []))
    else (rows, c :: row)
  let finish : Table × List Char → Table := fun (rows, row) =>
    if row.isEmpty then rows else rows.push (readRow row.reverse)
  have fold (cs : List Char) : ∀ (rows : Table) (row : List Char),
      (finish (cs.foldl step (rows, row))).toList = rows.toList ++
        rowsFrom (if row.isEmpty then none else some (row.reverse.foldl Part.step (.first 0))) cs := by
    induction cs with
    | nil => intro rows row; cases row <;> simp [finish, rowsFrom, readRow_eq]
    | cons c cs ih =>
      intro rows row
      rw [List.foldl_cons]
      by_cases hc : c = ' ' ∨ c = '\n'
      · cases row with
        | nil => simpa [step, hc, rowsFrom] using ih rows []
        | cons d row =>
          have hrest := ih (rows.push (readRow (d :: row).reverse)) []
          simpa [step, hc, readRow_eq, rowsFrom] using hrest
      · cases row with
        | nil => simpa [step, hc, rowsFrom] using ih rows [c]
        | cons d row => simpa [step, hc, rowsFrom] using ih rows (c :: d :: row)
  have h := fold cs #[] []
  rw [List.nil_append] at h
  rw [ofText, String.toList_ofList]
  exact h

/-! ## Checking -/

/-- Whether rows are apart and in order, and begin at `floor` or later. -/
def checkOrder (floor : Nat) : List Row → Bool
  | [] => true
  | r :: rows => floor ≤ r.first && r.first ≤ r.last && checkOrder (r.last + 1) rows

theorem checkOrder_spec {floor : Nat} (h : checkOrder floor rows = true) :
    (∀ r ∈ rows, floor ≤ r.first ∧ r.first ≤ r.last) ∧
      rows.Pairwise fun r s => r.last < s.first := by
  induction rows generalizing floor with
  | nil => simp
  | cons r rows ih =>
    simp only [checkOrder, Bool.and_eq_true, decide_eq_true_eq] at h
    obtain ⟨hr, ht⟩ := ih h.2
    refine ⟨?_, List.pairwise_cons.mpr ⟨fun s hs => ?_, ht⟩⟩
    · intro s hs
      rcases List.mem_cons.mp hs with rfl | hs
      · exact h.1
      · have := hr s hs
        omega
    · have := hr s hs
      omega

theorem inOrder_of_check {floor : Nat} (h : checkOrder floor t.toList = true) : t.InOrder :=
  ⟨fun r hr => ((checkOrder_spec h).1 r hr).2, (checkOrder_spec h).2⟩

/-- No row is for a code point from `low` to `high`. -/
def checkClear (low high : Nat) (rows : List Row) : Bool :=
  rows.all fun r => r.last < low || high < r.first

theorem row?_of_checkClear (h : checkClear low high t.toList = true) (hl : low ≤ n) (hh : n ≤ high) :
    t.row? n = none := by
  refine row?_eq_none fun r hr hc => ?_
  have := List.all_eq_true.mp h r hr
  simp only [Bool.or_eq_true, decide_eq_true_eq] at this
  unfold Row.Covers at hc
  omega

end Table

/-! ## Search trees -/

/-- Rows between smaller and greater ones. -/
inductive Tree where
  | leaf
  | node (left : Tree) (row : Row) (right : Tree)

namespace Tree

def toList : Tree → List Row
  | leaf => []
  | node left r right => left.toList ++ r :: right.toList

def find? (n : Nat) : Tree → Option Row
  | leaf => none
  | node left r right =>
    match Nat.blt n r.first with
    | true => left.find? n
    | false =>
      match Nat.blt r.last n with
      | true => right.find? n
      | false => some r

/-- A tree of the first rows, with as many as the depth allows, and the other rows. -/
def build : (depth : Nat) → List Row → Tree × List Row
  | 0, rows => (leaf, rows)
  | depth + 1, rows =>
    match build depth rows with
    | (left, []) => (left, [])
    | (left, r :: rows) =>
      match build depth rows with
      | (right, rows) => (node left r right, rows)

theorem toList_build (depth : Nat) (rows : List Row) :
    (build depth rows).1.toList ++ (build depth rows).2 = rows := by
  induction depth generalizing rows with
  | zero => rfl
  | succ depth ih =>
    have hleft := ih rows
    rw [build]
    split
    · next left h => rw [h] at hleft; exact hleft
    · next left r rest h =>
      have hright := ih rest
      rw [h] at hleft
      simp only [toList, List.append_assoc, List.cons_append, hright]
      exact hleft

variable {tree : Tree}

theorem find?_node (left right : Tree) (r : Row) (n : Nat) :
    (node left r right).find? n =
      if n < r.first then left.find? n else if r.last < n then right.find? n else some r := by
  have hblt (a b : Nat) : Nat.blt a b = decide (a < b) := by
    rw [Bool.eq_iff_iff, Nat.blt_eq, decide_eq_true_iff]
  rw [find?, hblt, hblt]
  by_cases h : n < r.first
  · simp [h]
  · by_cases h' : r.last < n <;> simp [h, h']

theorem find?_covers (h : tree.find? n = some r) : r ∈ tree.toList ∧ r.Covers n := by
  induction tree with
  | leaf => cases h
  | node left s right ihl ihr =>
    rw [find?_node] at h
    simp only [toList, List.mem_append, List.mem_cons]
    split at h
    · exact ⟨.inl (ihl h).1, (ihl h).2⟩
    · split at h
      · exact ⟨.inr (.inr (ihr h).1), (ihr h).2⟩
      · obtain rfl := Option.some.inj h
        exact ⟨.inr (.inl rfl), by unfold Row.Covers; omega⟩

theorem find?_of_covers (hu : ∀ r ∈ tree.toList, r.first ≤ r.last)
    (ht : tree.toList.Pairwise fun r s => r.last < s.first) (hr : r ∈ tree.toList)
    (hc : r.Covers n) : tree.find? n = some r := by
  induction tree with
  | leaf => cases hr
  | node left s right ihl ihr =>
    simp only [toList, List.pairwise_append, List.pairwise_cons] at ht
    obtain ⟨hl, ⟨hsr, hr'⟩, hlr⟩ := ht
    have hs : s.first ≤ s.last := hu s (by simp [toList])
    rw [find?_node]
    unfold Row.Covers at hc
    rcases List.mem_append.mp hr with hm | hm
    · have := hlr r hm s List.mem_cons_self
      rw [if_pos (by omega)]
      exact ihl (fun q hq => hu q (by simp [toList, hq])) hl hm
    · rcases List.mem_cons.mp hm with rfl | hm
      · rw [if_neg (by omega), if_neg (by omega)]
      · have := hsr r hm
        rw [if_neg (by omega), if_pos (by omega)]
        exact ihr (fun q hq => hu q (by simp [toList, hq])) hr' hm

/-- The tree finds what the table finds. -/
theorem find?_eq {t : Table} (ht : t.InOrder) (hl : tree.toList = t.toList) (n : Nat) :
    tree.find? n = t.row? n := by
  cases hr : t.row? n with
  | some r =>
    obtain ⟨hm, hc⟩ := Table.row?_covers hr
    exact find?_of_covers (hl ▸ ht.1) (hl ▸ ht.2) (hl ▸ hm) hc
  | none =>
    cases hf : tree.find? n with
    | none => rfl
    | some r =>
      obtain ⟨hm, hc⟩ := find?_covers hf
      rw [Table.row?_of_covers ht (hl ▸ hm) hc] at hr
      cases hr

end Tree

/-- Rows that are apart and in order, in a tree that a check can go by. -/
def checkTree (floor depth : Nat) (rows : List Row) (check : Tree → Bool) : Bool :=
  Table.checkOrder floor rows && (Tree.build depth rows).2.isEmpty && check (Tree.build depth rows).1

theorem checkTree_spec {floor depth : Nat} {check : Tree → Bool}
    (h : checkTree floor depth t.toList check = true) :
    t.InOrder ∧ (∀ r ∈ t.toList, floor ≤ r.first) ∧
      ∃ tree : Tree, (∀ n, tree.find? n = t.row? n) ∧ check tree = true := by
  simp only [checkTree, Bool.and_eq_true] at h
  obtain ⟨⟨horder, hempty⟩, hcheck⟩ := h
  have hin := Table.inOrder_of_check horder
  have hlist : (Tree.build depth t.toList).1.toList = t.toList := by
    have := Tree.toList_build depth t.toList
    rwa [List.isEmpty_iff.mp hempty, List.append_nil] at this
  exact ⟨hin, fun r hr => ((Table.checkOrder_spec horder).1 r hr).1, _, Tree.find?_eq hin hlist, hcheck⟩

end ClusterOperator.Text
