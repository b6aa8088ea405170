import ClusterOperator.Proofs.Text.Digits
import ClusterOperator.Timestamp

/-!
# Timestamps that are read as what was written

The text of a timestamp is read as that timestamp: in its year with a sign or without, to the
last nanosecond, and also in a leap second.
-/

namespace ClusterOperator.Timestamp

open Text

variable {ds rest : List Char} {c : Char} {n : Nat}

/-! ## Digits -/

theorem not_isSpace_of_isDigit (h : c.isDigit = true) : isSpace c = false := by
  simp only [Char.isDigit, Bool.and_eq_true, decide_eq_true_eq, UInt32.le_iff_toNat_le] at h
  have hc : 48 ≤ c.toNat ∧ c.toNat ≤ 57 := h
  simp only [isSpace, Bool.or_eq_false_iff, Bool.and_eq_false_imp, decide_eq_false_iff_not,
    decide_eq_true_eq]
  omega

theorem trimStart_of_not_isSpace (h : isSpace c = false) : trimStart (c :: rest) = c :: rest := by
  simp [trimStart, h]

theorem noDigit_take (h : NoDigit rest) (k : Nat) : NoDigit (rest.take k) := by
  cases k with
  | zero => simp [NoDigit]
  | succ k =>
    cases rest with
    | nil => exact h
    | cons c rest => exact h

/-- A run of digits is taken whole if it ends at the bound or at something else. -/
theorem takeDigits_run {max : Nat} (h : ∀ c ∈ ds, c.isDigit = true) (hne : ds ≠ [])
    (hl : ds.length ≤ max) (hr : ds.length = max ∨ NoDigit rest) :
    takeDigits max (ds ++ rest) = some (ofDigits ds, rest) := by
  have hend : NoDigit (rest.take (max - ds.length)) := by
    rcases hr with hr | hr
    · rw [hr, Nat.sub_self]
      simp [NoDigit]
    · exact noDigit_take hr _
  have hw : ((ds ++ rest).take max).takeWhile Char.isDigit = ds := by
    rw [List.take_append, List.take_of_length_le hl]
    exact takeWhile_digits h hend
  unfold takeDigits
  simp only [hw]
  rw [if_neg (by simp [hne]), List.drop_left]

theorem isDigit_padded (width n : Nat) : ∀ c ∈ padded width n, c.isDigit = true := by
  rw [padded, Nat.toString_eq_repr, Nat.toList_repr]
  exact isDigit_zeroPadded (isDigit_toDigits n)

theorem ofDigits_padded (width n : Nat) : ofDigits (padded width n) = n := by
  rw [padded, Nat.toString_eq_repr, Nat.toList_repr, ofDigits_zeroPadded, ofDigits_toDigits]

theorem padded_ne_nil (width n : Nat) : padded width n ≠ [] := by
  rw [padded, Nat.toString_eq_repr, Nat.toList_repr, zeroPadded]
  intro h
  exact Nat.toDigits_ne_nil (List.append_eq_nil_iff.mp h).2

theorem length_padded {width : Nat} (hw : 0 < width) (h : n < 10 ^ width) :
    (padded width n).length = width := by
  rw [padded, Nat.toString_eq_repr, Nat.toList_repr]
  exact length_zeroPadded ((Nat.length_toDigits_le_iff (by omega) hw).mpr h)

/-! ## Parts -/

theorem digitValue_ofNat {d : Nat} (h : d < 10) :
    (Char.ofNat ('0'.toNat + d)).isDigit = true ∧ digitValue (Char.ofNat ('0'.toNat + d)) = d := by
  have all : ∀ d : Fin 10, (Char.ofNat ('0'.toNat + d)).isDigit = true ∧
      digitValue (Char.ofNat ('0'.toNat + d)) = d.val := by decide
  exact all ⟨d, h⟩

theorem isDigit_twoDigits (h : n < 100) : ∀ c ∈ twoDigits n, c.isDigit = true := by
  have h₁ := digitValue_ofNat (d := n / 10) (by omega)
  have h₂ := digitValue_ofNat (d := n % 10) (by omega)
  simp only [twoDigits, List.forall_mem_cons]
  exact ⟨h₁.1, h₂.1, nofun⟩

theorem ofDigits_twoDigits (h : n < 100) : ofDigits (twoDigits n) = n := by
  have h₁ := digitValue_ofNat (d := n / 10) (by omega)
  have h₂ := digitValue_ofNat (d := n % 10) (by omega)
  simp only [ofDigits, twoDigits, List.foldl_cons, List.foldl_nil, h₁.2, h₂.2]
  omega

theorem takePart_twoDigits (h : n < 100) (rest : List Char) :
    takePart 2 (twoDigits n ++ rest) = some (n, rest) := by
  have hd := isDigit_twoDigits h
  have ht : trimStart (twoDigits n ++ rest) = twoDigits n ++ rest :=
    trimStart_of_not_isSpace (not_isSpace_of_isDigit (hd _ List.mem_cons_self))
  rw [takePart, ht, takeDigits_run hd (by simp [twoDigits]) (by simp [twoDigits])
    (.inl (by simp [twoDigits])), ofDigits_twoDigits h]

theorem takeMark_self (h : isSpace c = false) (rest : List Char) :
    takeMark c (c :: rest) = some rest := by
  simp [takeMark, trimStart_of_not_isSpace h]

theorem takeYear_yearText (year : Int) (rest : List Char) :
    takeYear (yearText year ++ '-' :: rest) = some (year, '-' :: rest) := by
  have hdash : NoDigit ('-' :: rest) := by simp [NoDigit]
  have signed : ∀ n : Nat, takeDigits (padded 4 n ++ '-' :: rest).length (padded 4 n ++ '-' :: rest) =
      some (n, '-' :: rest) := by
    intro n
    rw [takeDigits_run (isDigit_padded 4 n) (padded_ne_nil 4 n) (by simp) (.inr hdash),
      ofDigits_padded]
  unfold yearText
  by_cases hy : 0 ≤ year ∧ year ≤ 9999
  · rw [if_pos hy]
    have hl : (padded 4 year.toNat).length = 4 := length_padded (by omega) (by omega)
    have hd := isDigit_padded 4 year.toNat
    have hrun : takeDigits 4 (padded 4 year.toNat ++ '-' :: rest) = some (year.toNat, '-' :: rest) := by
      rw [takeDigits_run hd (padded_ne_nil _ _) (by omega) (.inl hl), ofDigits_padded]
    cases hp : padded 4 year.toNat with
    | nil => exact absurd hp (padded_ne_nil _ _)
    | cons c cs =>
      rw [hp] at hd hrun
      have hc : c.isDigit = true := hd c List.mem_cons_self
      have hminus : c ≠ '-' := by rintro rfl; exact absurd hc (by decide)
      have hplus : c ≠ '+' := by rintro rfl; exact absurd hc (by decide)
      rw [List.cons_append] at hrun ⊢
      unfold takeYear
      rw [trimStart_of_not_isSpace (not_isSpace_of_isDigit hc)]
      simp [hminus, hplus, hrun, hy.1]
  · rw [if_neg hy]
    by_cases hn : year < 0
    · have hs : trimStart ('-' :: (padded 4 year.natAbs ++ '-' :: rest)) = _ :=
        trimStart_of_not_isSpace (by decide)
      rw [if_pos hn, List.cons_append, takeYear, hs]
      simp only [signed, Option.map_some]
      congr 2
      omega
    · have hs : trimStart ('+' :: (padded 4 year.natAbs ++ '-' :: rest)) = _ :=
        trimStart_of_not_isSpace (by decide)
      rw [if_neg hn, List.cons_append, takeYear, hs]
      simp only [signed, Option.map_some]
      congr 2
      omega

theorem takeFraction_padded {width : Nat} (hw : 0 < width ∧ width ≤ 9) (h : n < 10 ^ width) :
    takeFraction ('.' :: (padded width n ++ ['Z'])) = some (n * 10 ^ (9 - width), ['Z']) := by
  have hz : NoDigit ['Z'] := by simp [NoDigit]
  have hl := length_padded hw.1 h
  unfold takeFraction
  simp only
  rw [takeDigits_run (isDigit_padded _ _) (padded_ne_nil _ _) (by omega) (.inr hz), ofDigits_padded]
  simp [hl]

theorem takeFraction_fractionText (h : n < 1000000000) :
    takeFraction (fractionText n ++ ['Z']) = some (n, ['Z']) := by
  unfold fractionText
  split
  · next h0 => rw [h0]; rfl
  split
  · rw [List.cons_append, takeFraction_padded (by omega) (by omega)]
    congr 2
    omega
  split
  · rw [List.cons_append, takeFraction_padded (by omega) (by omega)]
    congr 2
    omega
  · rw [List.cons_append, takeFraction_padded (by omega) (by omega)]
    simp

/-! ## Points in time -/

theorem ofParts?_self (t : Timestamp) :
    ofParts? t.year t.month t.day t.hour t.minute t.second t.nanos = some t := by
  simp [ofParts?, t.year_range, t.month_range, t.day_range, t.time_range, t.nanos_range]

theorem ofLocal?_utc {year : Int} {month day hour minute second nanos : Nat}
    (h : hour < 24 ∧ minute < 60 ∧ second < 60) :
    ofLocal? year month day hour minute second nanos 0 =
      ofParts? year month day hour minute second nanos := by
  have hs : (hour * 3600 + minute * 60 + second : Int) - 0 =
      (hour * 3600 + minute * 60 + second : Nat) := by omega
  have hh : (hour * 3600 + minute * 60 + second) / 3600 = hour := by omega
  have hm : (hour * 3600 + minute * 60 + second) % 3600 / 60 = minute := by omega
  have hsec : (hour * 3600 + minute * 60 + second) % 60 = second := by omega
  unfold ofLocal?
  simp only [hs]
  rw [if_neg (by omega), if_neg (by omega)]
  simp only [Int.toNat_natCast, hh, hm, hsec]

/-- The text up to the seconds, given as they are written, with a fraction. -/
theorem ofText?_parts (year : Int) {month day hour minute : Nat} (second nanos : Nat)
    (hm : month < 100) (hd : day < 100) (hh : hour < 100) (hmin : minute < 100) (hs : second ≤ 60)
    (hn : nanos < 1000000000) :
    ofText? (String.ofList (yearText year ++ '-' :: (twoDigits month ++ '-' :: (twoDigits day ++
      'T' :: (twoDigits hour ++ ':' :: (twoDigits minute ++ ':' :: (twoDigits second ++
      (fractionText nanos ++ ['Z'])))))))) =
      (do
        let (second, nanos) := if second = 60 then (59, nanos + 1000000000) else (second, nanos)
        let _ ← ofParts? year month day hour minute second nanos
        ofLocal? year month day hour minute second nanos 0) := by
  have hdash : isSpace '-' = false := by decide
  have hcolon : isSpace ':' = false := by decide
  have hz : trimStart ['Z'] = ['Z'] := by decide
  have he : trimStart [] = [] := rfl
  have hzone : takeZone ['Z'] = some (0, []) := rfl
  have take : ∀ {α β : Type} {a : α} {o : Option α} (f : α → Option β), o = some a →
      o >>= f = f a := by
    rintro α β a o f rfl
    rfl
  unfold ofText?
  rw [String.toList_ofList, take _ (takeYear_yearText year _)]
  dsimp only
  rw [take _ (takeMark_self hdash _), take _ (takePart_twoDigits hm _)]
  dsimp only
  rw [take _ (takeMark_self hdash _), take _ (takePart_twoDigits hd _)]
  dsimp only
  rw [if_pos (.inl rfl), take _ rfl, take _ (takePart_twoDigits hh _)]
  dsimp only
  rw [take _ (takeMark_self hcolon _), take _ (takePart_twoDigits hmin _)]
  dsimp only
  rw [take _ (takeMark_self hcolon _), take _ (takePart_twoDigits (by omega) _)]
  dsimp only
  rw [take _ (takeFraction_fractionText hn)]
  dsimp only
  rw [hz, take _ hzone]
  dsimp only
  rw [if_pos ⟨by rw [he]; rfl, hs⟩]

theorem ofText?_toText (t : Timestamp) : ofText? t.toText = some t := by
  obtain ⟨hhour, hminute, hsecond⟩ := t.time_range
  have hnanos := t.nanos_range
  have hmonth := t.month_range
  have hday : t.day < 100 := by
    have hl : monthLength t.year t.month ≤ 31 := by
      unfold monthLength
      split <;> (try split) <;> omega
    have hd := t.day_range.2
    omega
  have hself := ofParts?_self t
  have hparts : ∀ second nanos, second ≤ 60 → nanos < 1000000000 → _ := fun second nanos hs hn =>
    ofText?_parts t.year second nanos (by omega : t.month < 100) hday
      (by omega : t.hour < 100) (by omega : t.minute < 100) hs hn
  unfold toText dateTimeText
  simp only [List.append_assoc, List.cons_append]
  by_cases hl : 1000000000 ≤ t.nanos
  · -- it is written as the sixtieth second
    have hlast : t.second = 59 := by
      by_contra hne
      rw [if_neg hne] at hnanos
      omega
    rw [if_pos hlast] at hnanos
    have hmod : t.nanos % 1000000000 + 1000000000 = t.nanos := by omega
    rw [if_pos hl, hparts _ _ (by omega) (by omega), hlast]
    simp only [if_true, hmod]
    rw [hlast] at hself
    rw [ofLocal?_utc ⟨hhour, hminute, by omega⟩, hself]
    rfl
  · have hmod : t.nanos % 1000000000 = t.nanos := by omega
    rw [if_neg hl, hparts _ _ (by omega) (by omega), hmod]
    simp only [if_neg (show t.second ≠ 60 by omega)]
    rw [ofLocal?_utc t.time_range, hself]
    rfl

/-! ## Whole seconds -/

/-- The point in time at which its second began; a leap second begins with the billionth
nanosecond of the last second. -/
def wholeSeconds (t : Timestamp) : Timestamp :=
  { t with
    nanos := t.nanos / 1000000000 * 1000000000
    nanos_range := Nat.lt_of_le_of_lt (Nat.div_mul_le_self _ _) t.nanos_range }

theorem toSecondsText_eq (t : Timestamp) : t.toSecondsText = t.wholeSeconds.toText := by
  have hmod : t.wholeSeconds.nanos % 1000000000 = 0 := Nat.mul_mod_left _ _
  have hleap : 1000000000 ≤ t.wholeSeconds.nanos ↔ 1000000000 ≤ t.nanos := by
    show 1000000000 ≤ t.nanos / 1000000000 * 1000000000 ↔ _
    omega
  have hdate : t.wholeSeconds.dateTimeText = t.dateTimeText := by
    unfold dateTimeText
    simp only [hleap]
    rfl
  unfold toSecondsText toText
  rw [hmod, hdate]
  simp [fractionText]

/-- What is written in whole seconds is read as the time cut to whole seconds. -/
theorem ofText?_toSecondsText (t : Timestamp) : ofText? t.toSecondsText = some t.wholeSeconds := by
  rw [toSecondsText_eq, ofText?_toText]

end ClusterOperator.Timestamp
