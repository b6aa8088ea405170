import ClusterOperator.Json.Text
import ClusterOperator.Proofs.Text.Digits

/-!
# Texts that are read as what was written

The text of a value without doubles, whose integers fit into 64 bits, is read as that value.
-/

namespace ClusterOperator.Json

open Text

variable {n fuel : Nat} {rest : List Char}

/-! ## Strings -/

theorem hex4?_control (h : n < 32) :
    hex4? '0' '0' (hexDigit 'a' (n / 16)) (hexDigit 'a' (n % 16)) = some n := by
  have hz : hexValue? '0' = some 0 := by decide
  have ht : hexValue? (hexDigit 'a' (n / 16)) = some (n / 16) := hexValue?_hexDigit (by omega)
  have hu : hexValue? (hexDigit 'a' (n % 16)) = some (n % 16) := hexValue?_hexDigit (by omega)
  simp only [hex4?, hz, ht, hu]
  congr 1
  omega

/-- What is written for a character is read as that character, whatever follows. -/
theorem scanText_writeChar (seen : List Char) (c : Char) (rest : List Char) :
    scanText seen true (writeChar c rest) = scanText (c :: seen) true rest := by
  unfold writeChar
  split
  · subst_vars; simp [scanText, escapedChar?]
  split
  · subst_vars; simp [scanText, escapedChar?]
  split
  · subst_vars; simp [scanText, escapedChar?]
  split
  · subst_vars; simp [scanText, escapedChar?]
  split
  · subst_vars; simp [scanText, escapedChar?]
  split
  · subst_vars; simp [scanText, escapedChar?]
  split
  · subst_vars; simp [scanText, escapedChar?]
  split
  · next h =>
    have hl : isLead c.toNat = false := by simp [isLead]; omega
    have ht : isTrail c.toNat = false := by simp [isTrail]; omega
    rw [scanText, hex4?_control h]
    simp [hl, ht]
  · next hq hs _ _ _ _ _ hc =>
    rw [scanText]
    · rw [if_neg hc]
    all_goals simp_all

theorem scanText_chars (cs seen rest : List Char) :
    scanText seen true (cs.foldr writeChar ('"' :: rest)) =
      .closed (some (String.ofList (seen.reverse ++ cs))) rest := by
  induction cs generalizing seen with
  | nil => simp [scanText]
  | cons c cs ih =>
    rw [List.foldr_cons, scanText_writeChar, ih]
    simp

theorem scanText_text (s : String) (rest : List Char) :
    scanText [] true (s.toList.foldr writeChar ('"' :: rest)) = .closed (some s) rest := by
  rw [scanText_chars]
  simp

/-! ## Integers -/

/-- Nothing that goes on a number comes first. -/
def Stops (cs : List Char) : Prop :=
  ∀ c ∈ cs.head?, c.isDigit = false ∧ c ≠ '.' ∧ c ≠ 'e' ∧ c ≠ 'E'

theorem Stops.nil : Stops [] := by simp [Stops]

theorem Stops.noDigit (h : Stops rest) : NoDigit rest := fun c hc => (h c hc).1

theorem appendDigits_eq {ds : List Char} (h : Nat.ofDigitChars 10 ds n < 2 ^ 64) :
    appendDigits n ds = (Nat.ofDigitChars 10 ds n, 0) := by
  induction ds generalizing n with
  | nil => simp [appendDigits]
  | cons c ds ih =>
    rw [Nat.ofDigitChars_cons, Nat.mul_comm] at h ⊢
    -- digits that follow only make the number larger
    have hm : n * 10 + digitValue c ≤ Nat.ofDigitChars 10 ds (n * 10 + digitValue c) := by
      rw [Nat.ofDigitChars_eq_ofDigitChars_zero]
      exact Nat.le_add_right_of_le (Nat.le_mul_of_pos_left _ (Nat.pow_pos (by omega)))
    unfold appendDigits
    rw [if_pos (Nat.lt_of_le_of_lt hm h)]
    exact ih h

theorem readFraction_digits (negative : Bool) (h : n < 2 ^ 64) (hr : Stops rest) :
    readFraction negative (Nat.toDigits 10 n) rest =
      (Numeral.token ⟨negative, n, 0, true⟩, some rest) := by
  have hd : Nat.ofDigitChars 10 (Nat.toDigits 10 n) 0 = n :=
    Nat.ofDigitChars_toDigits (by omega) (by omega)
  have ha : appendDigits 0 (Nat.toDigits 10 n) = (n, 0) := by
    rw [appendDigits_eq (by rwa [hd]), hd]
  unfold readFraction
  rw [ha]
  cases rest with
  | nil => rfl
  | cons c rest =>
    obtain ⟨-, hp, he, hE⟩ := hr c rfl
    simp [hp, he, hE]

theorem readNumber_digits (negative : Bool) (h : n < 2 ^ 64) (hr : Stops rest) :
    readNumber negative (Nat.toDigits 10 n ++ rest) =
      (Numeral.token ⟨negative, n, 0, true⟩, some rest) := by
  have hf := readFraction_digits negative h hr
  have hdigit := isDigit_toDigits n
  by_cases hn : n = 0
  · subst hn
    rw [Nat.toDigits_zero] at hf ⊢
    cases rest with
    | nil => exact hf
    | cons c rest => simpa [readNumber, (hr c rfl).1] using hf
  · have hz := head?_toDigits (Nat.pos_of_ne_zero hn)
    cases hd : Nat.toDigits 10 n with
    | nil => exact absurd hd Nat.toDigits_ne_nil
    | cons c ds =>
      rw [hd] at hf hdigit hz
      have hc : c.isDigit = true := hdigit c List.mem_cons_self
      have hds : ∀ c ∈ ds, c.isDigit = true := fun c hc => hdigit c (List.mem_cons_of_mem _ hc)
      have hne : c ≠ '0' := by simpa using hz
      rw [List.cons_append]
      unfold readNumber
      simp only [hc, if_true, takeWhile_digits hds hr.noDigit, dropWhile_digits hds hr.noDigit]
      exact hf

/-- The integers of 64 bits, with a sign or without. -/
def Word (i : Int) : Prop := -2 ^ 63 ≤ i ∧ i < 2 ^ 64

theorem writeNumber_int (i : Int) (rest : List Char) :
    writeNumber (.int i) rest =
      if 0 ≤ i then Nat.toDigits 10 i.toNat ++ rest
      else '-' :: (Nat.toDigits 10 (-i).toNat ++ rest) := by
  simp only [writeNumber]
  rw [Int.toString_eq_repr, Int.repr_eq_if]
  split <;> simp [Nat.toList_repr]

theorem token_nonneg {i : Int} (h : 0 ≤ i) :
    Numeral.token ⟨false, i.toNat, 0, true⟩ = .number (.int i) := by
  simp [Numeral.token, h]

theorem token_neg {i : Int} (h : i < 0) (hw : Word i) :
    Numeral.token ⟨true, (-i).toNat, 0, true⟩ = .number (.int i) := by
  unfold Word at hw
  have hp : 0 < (-i).toNat ∧ (-i).toNat ≤ 2 ^ 63 := by omega
  have hi : -((-i).toNat : Int) = i := by omega
  unfold Numeral.token
  simp only [if_true, Bool.not_true, Bool.false_eq_true, if_false]
  rw [if_pos hp, hi]

/-! ## Values -/

mutual

/-- Holds nothing broken or cut, no double, and no integer of more than 64 bits. -/
def Plain : Json → Prop
  | .null => True
  | .bool _ => True
  | .number (.int i) => Word i
  | .number (.double _) => False
  | .string _ => True
  | .broken _ _ => False
  | .array items => items.Plain
  | .object members => members.Plain

def Items.Plain : Items → Prop
  | .nil => True
  | .cut _ => False
  | .cons head tail => head.Plain ∧ tail.Plain

def Members.Plain : Members → Prop
  | .nil => True
  | .cut _ _ => False
  | .cons none _ _ => False
  | .cons (some _) value tail => value.Plain ∧ tail.Plain

end

/-- Begins as a value does: with nothing that is passed over, and no closing bracket. -/
def Begins (cs : List Char) : Prop := ∃ c tail, cs = c :: tail ∧ isBlank c = false ∧ c ≠ ']'

theorem begins_digits (n : Nat) (rest : List Char) : Begins (Nat.toDigits 10 n ++ rest) := by
  have hdigit := isDigit_toDigits n
  cases hd : Nat.toDigits 10 n with
  | nil => exact absurd hd Nat.toDigits_ne_nil
  | cons c ds =>
    rw [hd] at hdigit
    have hc : c.isDigit = true := hdigit c List.mem_cons_self
    refine ⟨c, ds ++ rest, rfl, ?_, ?_⟩
    · by_contra hb
      simp only [isBlank, Bool.not_eq_false, Bool.or_eq_true, decide_eq_true_eq] at hb
      rcases hb with ((rfl | rfl) | rfl) | rfl <;> exact absurd hc (by decide)
    · rintro rfl
      exact absurd hc (by decide)

theorem begins_write {j : Json} (h : j.Plain) (rest : List Char) : Begins (j.write rest) := by
  cases j with
  | null => exact ⟨_, _, rfl, by decide, by decide⟩
  | bool b => cases b <;> exact ⟨_, _, rfl, by decide, by decide⟩
  | number x =>
    cases x with
    | int i =>
      rw [write, writeNumber_int]
      split
      · exact begins_digits _ _
      · exact ⟨_, _, rfl, by decide, by decide⟩
    | double x => exact absurd h (by simp [Plain])
  | string s => exact ⟨_, _, rfl, by decide, by decide⟩
  | broken onRead onSkip => exact absurd h (by simp [Plain])
  | array items => exact ⟨_, _, rfl, by decide, by decide⟩
  | object members => exact ⟨_, _, rfl, by decide, by decide⟩

theorem length_writeChar (c : Char) (rest : List Char) :
    rest.length < (writeChar c rest).length := by
  unfold writeChar
  repeat' split
  all_goals simp <;> omega

theorem length_writeText (s : String) (rest : List Char) :
    rest.length + 2 ≤ (writeText s rest).length := by
  have hc : ∀ cs : List Char, rest.length + 1 ≤ (cs.foldr writeChar ('"' :: rest)).length := by
    intro cs
    induction cs with
    | nil => simp
    | cons c cs ih =>
      have hl := length_writeChar c (cs.foldr writeChar ('"' :: rest))
      rw [List.foldr_cons]
      omega
  have hs := hc s.toList
  simp only [writeText, List.length_cons]
  omega

mutual

theorem length_write : ∀ (j : Json), j.Plain → ∀ rest, rest.length < (j.write rest).length
  | .null, _, rest => by simp [write]; omega
  | .bool true, _, rest => by simp [write]; omega
  | .bool false, _, rest => by simp [write]; omega
  | .number (.int i), _, rest => by
    have hl : ∀ n, 0 < (Nat.toDigits 10 n).length := fun n => Nat.length_toDigits_pos
    rw [write, writeNumber_int]
    split
    · simp [hl]
    · simp only [List.length_cons, List.length_append]
      omega
  | .string s, _, rest => by
    have hl := length_writeText s rest
    rw [write]
    omega
  | .array items, h, rest => by
    have hl := Items.length_write items h true (']' :: rest)
    simp only [write, List.length_cons] at hl ⊢
    omega
  | .object members, h, rest => by
    have hl := Members.length_write members h true ('}' :: rest)
    simp only [write, List.length_cons] at hl ⊢
    omega

theorem Items.length_write : ∀ (items : Items), items.Plain → ∀ first rest,
    rest.length ≤ (items.write first rest).length
  | .nil, _, first, rest => by simp [Items.write]
  | .cons head tail, h, first, rest => by
    have ht := Items.length_write tail h.2 false rest
    have hh := Json.length_write head h.1 (tail.write false rest)
    cases first <;> simp only [Items.write, List.length_cons] <;> omega

theorem Members.length_write : ∀ (members : Members), members.Plain → ∀ first rest,
    rest.length ≤ (members.write first rest).length
  | .nil, _, first, rest => by simp [Members.write]
  | .cons (some key) value tail, h, first, rest => by
    have ht := Members.length_write tail h.2 false rest
    have hv := Json.length_write value h.1 (tail.write false rest)
    have hk := length_writeText key (':' :: value.write (tail.write false rest))
    rw [List.length_cons] at hk
    cases first <;> simp only [Members.write, Option.getD_some, List.length_cons] <;> omega

end

theorem stops_of_head {c : Char} {cs : List Char} (h : c.isDigit = false) (hp : c ≠ '.')
    (he : c ≠ 'e') (hE : c ≠ 'E') : Stops (c :: cs) := by
  intro d hd
  obtain rfl : c = d := by simpa using hd
  exact ⟨h, hp, he, hE⟩

theorem Items.stops_write {items : Items} (h : items.Plain) (rest : List Char) :
    Stops (items.write false (']' :: rest)) := by
  cases items with
  | nil => exact stops_of_head (by decide) (by decide) (by decide) (by decide)
  | cut fault => exact absurd h (by simp [Items.Plain])
  | cons head tail => exact stops_of_head (by decide) (by decide) (by decide) (by decide)

theorem Members.stops_write {members : Members} (h : members.Plain) (rest : List Char) :
    Stops (members.write false ('\x7d' :: rest)) := by
  cases members with
  | nil => exact stops_of_head (by decide) (by decide) (by decide) (by decide)
  | cut onRead onSkip => exact absurd h (by simp [Members.Plain])
  | cons key value tail => exact stops_of_head (by decide) (by decide) (by decide) (by decide)

theorem skipBlanks_of_begins {cs : List Char} (h : Begins cs) : skipBlanks cs = cs := by
  obtain ⟨c, tail, rfl, hc, -⟩ := h
  simp [skipBlanks, hc]

theorem readValue_int {i : Int} (h : Word i) (hr : Stops rest) :
    readValue (fuel + 1) (writeNumber (.int i) rest) = (.number (.int i), some rest) := by
  have hb := begins_write (j := .number (.int i)) h rest
  have hs := skipBlanks_of_begins hb
  rw [write] at hs
  unfold readValue
  rw [hs, writeNumber_int]
  by_cases hi : 0 ≤ i
  · have hn : i.toNat < 2 ^ 64 := by unfold Word at h; omega
    have hv := readNumber_digits false hn hr
    have hdigit := isDigit_toDigits i.toNat
    rw [token_nonneg hi] at hv
    rw [if_pos hi]
    cases hd : Nat.toDigits 10 i.toNat with
    | nil => exact absurd hd Nat.toDigits_ne_nil
    | cons c ds =>
      rw [hd] at hv hdigit
      have hc : c.isDigit = true := hdigit c List.mem_cons_self
      have hne : ∀ d : Char, d.isDigit = false → c ≠ d := by
        rintro d hd rfl
        exact absurd hc (by simp [hd])
      simp only [List.cons_append] at hv ⊢
      rw [if_neg (hne _ (by decide)), if_neg (hne _ (by decide)), if_neg (hne _ (by decide)),
        if_neg (hne _ (by decide)), if_neg (hne _ (by decide)), if_neg (hne _ (by decide)),
        if_neg (hne _ (by decide)), if_pos hc]
      exact hv
  · have hn : (-i).toNat < 2 ^ 64 := by unfold Word at h; omega
    have hv := readNumber_digits true hn hr
    rw [token_neg (by omega) h] at hv
    rw [if_neg hi]
    exact hv

mutual

/-- With fuel for two steps for each character of the value, less one. -/
theorem readValue_write : ∀ (j : Json), j.Plain → ∀ fuel rest, Stops rest →
    2 * (j.write rest).length ≤ fuel + 2 * rest.length + 1 →
    readValue fuel (j.write rest) = (j, some rest)
  | j, h, 0, rest, _, hf => by
    have hl := length_write j h rest
    omega
  | .null, _, fuel + 1, rest, _, _ => by simp [write, readValue, skipBlanks, isBlank, readWord]
  | .bool true, _, fuel + 1, rest, _, _ => by simp [write, readValue, skipBlanks, isBlank, readWord]
  | .bool false, _, fuel + 1, rest, _, _ => by simp [write, readValue, skipBlanks, isBlank, readWord]
  | .number (.int i), h, fuel + 1, rest, hr, _ => readValue_int h hr
  | .string s, _, fuel + 1, rest, _, _ => by
    simp [write, writeText, readValue, skipBlanks, isBlank, scanText_text]
  | .array items, h, fuel + 1, rest, _, hf => by
    simp only [write, List.length_cons] at hf
    have hi := Items.readItems_write items h true fuel rest (by omega)
    simp [write, readValue, skipBlanks, isBlank, hi]
  | .object members, h, fuel + 1, rest, _, hf => by
    simp only [write, List.length_cons] at hf
    have hm := Members.readMembers_write members h true fuel rest (by omega)
    simp [write, readValue, skipBlanks, isBlank, hm]

theorem Items.readItems_write : ∀ (items : Items), items.Plain → ∀ first fuel rest,
    2 * (items.write first (']' :: rest)).length ≤ fuel + 2 * rest.length + 1 →
    readItems fuel first (items.write first (']' :: rest)) = (items, some rest)
  | items, h, first, 0, rest, hf => by
    have hl := Items.length_write items h first (']' :: rest)
    rw [List.length_cons] at hl
    omega
  | .nil, _, first, fuel + 1, rest, _ => by simp [Items.write, readItems, skipBlanks, isBlank]
  | .cons head tail, h, true, fuel + 1, rest, hf => by
    have hl := Json.length_write head h.1 (tail.write false (']' :: rest))
    have htl := Items.length_write tail h.2 false (']' :: rest)
    simp only [Items.write, List.length_cons] at hf htl ⊢
    have hh := Json.readValue_write head h.1 fuel _ (Items.stops_write h.2 rest) (by omega)
    have ht := Items.readItems_write tail h.2 false fuel rest (by omega)
    obtain ⟨c, cs, he, hb, hc⟩ := begins_write h.1 (tail.write false (']' :: rest))
    rw [he] at hh ⊢
    simp [readItems, skipBlanks, hb, hc, hh, ht]
  | .cons head tail, h, false, fuel + 1, rest, hf => by
    have hl := Json.length_write head h.1 (tail.write false (']' :: rest))
    have htl := Items.length_write tail h.2 false (']' :: rest)
    simp only [Items.write, List.length_cons] at hf htl ⊢
    have hh := Json.readValue_write head h.1 fuel _ (Items.stops_write h.2 rest) (by omega)
    have ht := Items.readItems_write tail h.2 false fuel rest (by omega)
    simp [readItems, skipBlanks, isBlank, hh, ht]

theorem Members.readMembers_write : ∀ (members : Members), members.Plain → ∀ first fuel rest,
    2 * (members.write first ('\x7d' :: rest)).length ≤ fuel + 2 * rest.length + 1 →
    readMembers fuel first (members.write first ('\x7d' :: rest)) = (members, some rest)
  | members, h, first, 0, rest, hf => by
    have hl := Members.length_write members h first ('\x7d' :: rest)
    rw [List.length_cons] at hl
    omega
  | .nil, _, first, fuel + 1, rest, _ => by simp [Members.write, readMembers, skipBlanks, isBlank]
  | .cons (some key) value tail, h, first, fuel + 1, rest, hf => by
    have hl := Json.length_write value h.1 (tail.write false ('\x7d' :: rest))
    have hk := length_writeText key (':' :: value.write (tail.write false ('\x7d' :: rest)))
    have htl := Members.length_write tail h.2 false ('\x7d' :: rest)
    rw [List.length_cons] at hk htl
    have hf' : 2 * (value.write (tail.write false ('\x7d' :: rest))).length + 4 ≤
        fuel + 2 * rest.length + 1 := by
      cases first <;> simp only [Members.write, Option.getD_some, List.length_cons] at hf <;> omega
    have hv := Json.readValue_write value h.1 fuel _ (Members.stops_write h.2 rest) (by omega)
    have ht := Members.readMembers_write tail h.2 false fuel rest (by omega)
    cases first <;> simp [Members.write, writeText, readMembers, skipBlanks, isBlank, scanText_text,
      hv, ht]

end

/-- A text that was written is read as what it was written for, and to its end. -/
theorem parse_render {j : Json} (h : j.Plain) : parse j.render = ⟨j, false⟩ := by
  have hv := readValue_write j h (3 * (j.write []).length + 3) [] .nil (by simp; omega)
  unfold parse render
  simp only [String.toList_ofList, hv]
  rfl

theorem render_inj {j k : Json} (hj : j.Plain) (hk : k.Plain) (h : j.render = k.render) :
    j = k := by
  have he := congrArg (Document.value ∘ parse) h
  simpa [parse_render hj, parse_render hk] using he

end ClusterOperator.Json
