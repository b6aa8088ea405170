import ClusterOperator.Proofs.Timestamp

/-!
# What the text of a timestamp says

A text names a point in time by what a clock shows then and by how far that clock is ahead of
UTC. What is read from a text is that point, whatever the offset.
-/

namespace ClusterOperator.Timestamp

open Text

/-! ## The lenient form of RFC 3339

Each piece is told from what is left of the text after it.
-/

/-- White space, if any. -/
def Blanks (cs rest : List Char) : Prop :=
  ∃ blanks, cs = blanks ++ rest ∧ ∀ c ∈ blanks, isSpace c = true

def Digits (max : Nat) (cs : List Char) (n : Nat) (rest : List Char) : Prop :=
  ∃ ds, cs = ds ++ rest ∧ ds ≠ [] ∧ ds.length ≤ max ∧ (∀ c ∈ ds, c.isDigit = true) ∧ ofDigits ds = n

def Part (cs : List Char) (n : Nat) (rest : List Char) : Prop :=
  ∃ mid, Blanks cs mid ∧ Digits 2 mid n rest

def Mark (mark : Char) (cs rest : List Char) : Prop := Blanks cs (mark :: rest)

/-- Four digits, or any number of them after a sign. -/
inductive Year : List Char → Int → List Char → Prop
  | plain {cs mid rest : List Char} {n : Nat} : Blanks cs mid → Digits 4 mid n rest → Year cs n rest
  | after {cs mid rest : List Char} {n : Nat} : Mark '+' cs mid → Digits mid.length mid n rest →
    Year cs n rest
  | before {cs mid rest : List Char} {n : Nat} : Mark '-' cs mid → Digits mid.length mid n rest →
    Year cs (-n) rest

/-- A fraction of a second in nanoseconds, cut after the ninth digit. -/
inductive Fraction : List Char → Nat → List Char → Prop
  | none {cs : List Char} : Fraction cs 0 cs
  | some {ds rest : List Char} : ds ≠ [] → (∀ c ∈ ds, c.isDigit = true) →
    Fraction ('.' :: (ds ++ rest)) (ofDigits (ds.take 9) * 10 ^ (9 - ds.length)) rest

/-- How many seconds the clock is ahead of UTC. -/
inductive Zone : List Char → Int → List Char → Prop
  | zulu {c : Char} {rest : List Char} : c = 'Z' ∨ c = 'z' → Zone (c :: rest) 0 rest
  | utc {u t c : Char} {rest : List Char} : u = 'U' ∨ u = 'u' → t = 'T' ∨ t = 't' →
    c = 'C' ∨ c = 'c' → Zone (u :: t :: c :: rest) 0 rest
  | offset {mark : Char} {sign : Int} {h₁ h₂ m₁ m₂ : Char} {gap rest : List Char} :
    (mark = '+' ∧ sign = 1) ∨ ((mark = '-' ∨ mark = '−') ∧ sign = -1) →
    (∀ c ∈ [h₁, h₂, m₁, m₂], c.isDigit = true) → (∀ c ∈ gap, c = ':' ∨ isSpace c = true) →
    ofDigits [h₁, h₂] < 24 → ofDigits [m₁, m₂] < 60 →
    Zone (mark :: h₁ :: h₂ :: (gap ++ m₁ :: m₂ :: rest))
      (sign * (ofDigits [h₁, h₂] * 3600 + ofDigits [m₁, m₂] * 60 : Nat)) rest

/-- What a clock shows that is some seconds ahead of UTC. -/
structure Clock where
  year : Int
  month : Nat
  day : Nat
  hour : Nat
  minute : Nat
  second : Nat
  nanos : Nat
  offset : Int

inductive Shows : List Char → Clock → Prop
  | mk {clock : Clock} {sep : Char}
      {cs cs₁ cs₂ cs₃ cs₄ cs₅ cs₆ cs₇ cs₈ cs₉ cs₁₀ cs₁₁ cs₁₂ cs₁₃ : List Char} :
    Year cs clock.year cs₁ → Mark '-' cs₁ cs₂ → Part cs₂ clock.month cs₃ → Mark '-' cs₃ cs₄ →
    Part cs₄ clock.day (sep :: cs₅) → sep = 'T' ∨ sep = 't' ∨ sep = ' ' →
    Part cs₅ clock.hour cs₆ → Mark ':' cs₆ cs₇ → Part cs₇ clock.minute cs₈ → Mark ':' cs₈ cs₉ →
    Part cs₉ clock.second cs₁₀ → Fraction cs₁₀ clock.nanos cs₁₁ → Blanks cs₁₁ cs₁₂ →
    Zone cs₁₂ clock.offset cs₁₃ → Blanks cs₁₃ [] → Shows cs clock

/-- The clock shows a date that there is, and a time of day. The sixtieth second of a minute is
its last one with a billion nanoseconds more. -/
structure IsAt (t : Timestamp) (clock : Clock) : Prop where
  month_range : 1 ≤ clock.month ∧ clock.month ≤ 12
  day_range : 1 ≤ clock.day ∧ clock.day ≤ monthLength clock.year clock.month
  time_range : clock.hour < 24 ∧ clock.minute < 60 ∧ clock.second ≤ 60
  seconds : t.unixSeconds = daysSinceEpoch clock.year clock.month clock.day * 86400 +
    clock.hour * 3600 + clock.minute * 60 + min clock.second 59 - clock.offset
  nanos : t.nanos = if clock.second = 60 then clock.nanos + 1000000000 else clock.nanos

/-- The text says that it is this point in time. -/
def Names (text : String) (t : Timestamp) : Prop := ∃ clock, Shows text.toList clock ∧ t.IsAt clock

/-! ## Pieces that are taken -/

variable {cs rest : List Char} {n : Nat} {max : Nat}

theorem blanks_trimStart (cs : List Char) : Blanks cs (trimStart cs) := by
  refine ⟨cs.takeWhile isSpace, List.takeWhile_append_dropWhile.symm, ?_⟩
  exact List.all_eq_true.mp List.all_takeWhile

theorem digits_of_takeDigits (h : takeDigits max cs = some (n, rest)) : Digits max cs n rest := by
  unfold takeDigits at h
  simp only at h
  split at h
  · cases h
  · next hne =>
    obtain ⟨rfl, rfl⟩ := Prod.mk.inj (Option.some.inj h)
    have hpre : (cs.take max).takeWhile Char.isDigit <+: cs :=
      (List.takeWhile_prefix _).trans (List.take_prefix _ _)
    obtain ⟨rest, hrest⟩ := hpre
    refine ⟨_, ?_, by simpa using hne, ?_, List.all_eq_true.mp List.all_takeWhile, rfl⟩
    · nth_rewrite 4 [← hrest]
      rw [List.drop_left]
      exact hrest.symm
    · exact Nat.le_trans (List.takeWhile_prefix _).length_le (List.length_take_le _ _)

theorem part_of_takePart (h : takePart 2 cs = some (n, rest)) : Part cs n rest :=
  ⟨_, blanks_trimStart cs, digits_of_takeDigits h⟩

theorem mark_of_takeMark {mark : Char} (h : takeMark mark cs = some rest) : Mark mark cs rest := by
  have hb := blanks_trimStart cs
  unfold takeMark at h
  split at h
  · next c cs' hcs =>
    split at h
    · next hc =>
      cases h
      rw [hcs, hc] at hb
      exact hb
    · cases h
  · cases h

theorem year_of_takeYear {year : Int} (h : takeYear cs = some (year, rest)) : Year cs year rest := by
  have hb := blanks_trimStart cs
  unfold takeYear at h
  split at h
  · next mid hcs =>
    obtain ⟨⟨n, rest'⟩, hd, heq⟩ := Option.map_eq_some_iff.mp h
    cases heq
    rw [hcs] at hb
    exact .before hb (digits_of_takeDigits hd)
  · next mid hcs =>
    obtain ⟨⟨n, rest'⟩, hd, heq⟩ := Option.map_eq_some_iff.mp h
    cases heq
    rw [hcs] at hb
    exact .after hb (digits_of_takeDigits hd)
  · obtain ⟨⟨n, rest'⟩, hd, heq⟩ := Option.map_eq_some_iff.mp h
    cases heq
    exact .plain hb (digits_of_takeDigits hd)

theorem digits_split (cs : List Char) :
    ∃ ds rest, cs = ds ++ rest ∧ (∀ c ∈ ds, c.isDigit = true) ∧ NoDigit rest := by
  refine ⟨cs.takeWhile Char.isDigit, cs.dropWhile Char.isDigit,
    List.takeWhile_append_dropWhile.symm, List.all_eq_true.mp List.all_takeWhile, fun c hc => ?_⟩
  have hnot := List.head?_dropWhile_not Char.isDigit cs
  rw [Option.mem_def.mp hc] at hnot
  exact hnot

theorem fraction_of_takeFraction (h : takeFraction cs = some (n, rest)) : Fraction cs n rest := by
  unfold takeFraction at h
  split at h
  · next after =>
    obtain ⟨ds, rest', rfl, hds, hrest⟩ := digits_split after
    obtain ⟨⟨k, left⟩, hd, heq⟩ := Option.map_eq_some_iff.mp h
    simp only [Prod.mk.injEq] at heq
    obtain ⟨rfl, rfl⟩ := heq
    -- of all digits the first nine were taken, and the others were passed over
    have htake : ((ds ++ rest').take 9).takeWhile Char.isDigit = ds.take 9 := by
      rw [← List.take_takeWhile, takeWhile_digits hds hrest]
    have hdrop : (ds ++ rest').drop (ds.take 9).length = ds.drop 9 ++ rest' := by
      rw [List.drop_append, List.length_take]
      rcases Nat.le_total 9 ds.length with hl | hl
      · rw [Nat.min_eq_left hl, Nat.sub_eq_zero_of_le hl, List.drop_zero]
      · rw [Nat.min_eq_right hl, Nat.sub_self, List.drop_zero, List.drop_length,
          List.drop_eq_nil_of_le hl]
    unfold takeDigits at hd
    simp only [htake, hdrop] at hd
    split at hd
    · cases hd
    · next hne =>
      obtain ⟨rfl, rfl⟩ := Prod.mk.inj (Option.some.inj hd)
      rw [dropWhile_digits (fun c hc => hds c (List.mem_of_mem_drop hc)) hrest]
      have hlen : 9 - ((ds ++ rest').length - (ds.drop 9 ++ rest').length) = 9 - ds.length := by
        simp only [List.length_append, List.length_drop]
        omega
      rw [hlen]
      refine .some ?_ hds
      rintro rfl
      exact hne rfl
  · cases h
    exact .none

/-- Two digits of which the first is at most five. -/
theorem minutes_lt {m n : Char} (hm : '0' ≤ m ∧ m ≤ '5') (hn : n.isDigit = true) :
    m.isDigit = true ∧ ofDigits [m, n] < 60 := by
  simp only [Char.isDigit, Bool.and_eq_true, decide_eq_true_eq, UInt32.le_iff_toNat_le] at hn ⊢
  simp only [Char.le_def, UInt32.le_iff_toNat_le] at hm
  have hm' : 48 ≤ m.toNat ∧ m.toNat ≤ 53 := hm
  have hn' : 48 ≤ n.toNat ∧ n.toNat ≤ 57 := hn
  constructor
  · show 48 ≤ m.toNat ∧ m.toNat ≤ 57
    omega
  · show (0 * 10 + (m.toNat - 48)) * 10 + (n.toNat - 48) < 60
    omega

theorem zone_of_takeZone {offset : Int} (h : takeZone cs = some (offset, rest)) :
    Zone cs offset rest := by
  unfold takeZone at h
  split at h
  · cases h
    exact .zulu (.inl rfl)
  · cases h
    exact .zulu (.inr rfl)
  · next u t c after _ _ =>
    split at h
    · next hutc =>
      cases h
      exact .utc hutc.1 hutc.2.1 hutc.2.2
    -- a sign, two digits, a gap, and two digits again
    simp only at h
    split at h
    · cases h
    next sign hsign =>
    split at h
    swap
    · cases h
    next hh =>
    split at h
    swap
    · cases h
    next m n rest' hgap =>
    split at h
    swap
    · cases h
    next hm =>
    split at h
    swap
    · cases h
    next hlt =>
    cases h
    obtain ⟨hm₁, hlt'⟩ := minutes_lt ⟨hm.1, hm.2.1⟩ hm.2.2
    have hafter := List.takeWhile_append_dropWhile
      (p := fun c => decide (c = ':') || isSpace c) (l := after)
    rw [hgap] at hafter
    rw [← hafter]
    refine .offset ?_ (by simp [hh.1, hh.2, hm₁, hm.2.2]) (fun c hc => ?_) hlt hlt'
    · split at hsign
      · next hu => exact .inl ⟨hu, (Option.some.inj hsign).symm⟩
      split at hsign
      · next hu => exact .inr ⟨hu, (Option.some.inj hsign).symm⟩
      · cases hsign
    · simpa using List.all_eq_true.mp List.all_takeWhile c hc
  · cases h

/-! ## Days -/

variable {year : Int} {month day : Nat}

theorem isLeapYear_iff :
    isLeapYear year = true ↔ year % 4 = 0 ∧ (year % 100 ≠ 0 ∨ year % 400 = 0) := by
  simp [isLeapYear]

/-- The day after the last one of a month. -/
theorem daysSinceEpoch_nextMonth (hm : 1 ≤ month ∧ month < 12) :
    daysSinceEpoch year (month + 1) 1 = daysSinceEpoch year month (monthLength year month) + 1 := by
  obtain ⟨hlo, hhi⟩ := hm
  unfold daysSinceEpoch
  simp only [Int.fdiv_eq_ediv_of_nonneg _ (show (0 : Int) ≤ 400 by omega)]
  by_cases h2 : month = 2
  · -- a year of the count begins with March, so February ends the one before
    subst h2
    by_cases hl : isLeapYear year = true
    · simp only [monthLength, if_pos hl]
      rw [isLeapYear_iff] at hl
      omega
    · simp only [monthLength, if_neg hl]
      rw [isLeapYear_iff] at hl
      omega
  · have hmonth : month = 1 ∨ month = 3 ∨ month = 4 ∨ month = 5 ∨ month = 6 ∨ month = 7 ∨ month = 8 ∨
        month = 9 ∨ month = 10 ∨ month = 11 := by omega
    rcases hmonth with rfl | rfl | rfl | rfl | rfl | rfl | rfl | rfl | rfl | rfl
    all_goals
      simp only [monthLength]
      omega

theorem daysSinceEpoch_nextYear :
    daysSinceEpoch (year + 1) 1 1 = daysSinceEpoch year 12 31 + 1 := by
  unfold daysSinceEpoch
  simp only [Int.fdiv_eq_ediv_of_nonneg _ (show (0 : Int) ≤ 400 by omega)]
  omega

theorem daysSinceEpoch_succ :
    daysSinceEpoch year month (day + 1) = daysSinceEpoch year month day + 1 := by
  unfold daysSinceEpoch
  simp only
  omega

/-- The number of a date, given as it is moved by a day. -/
def daysOf (date : Int × Nat × Nat) : Int := daysSinceEpoch date.1 date.2.1 date.2.2

theorem daysOf_nextDay (hm : 1 ≤ month ∧ month ≤ 12) (hd : day ≤ monthLength year month) :
    daysOf (nextDay year month day) = daysSinceEpoch year month day + 1 := by
  unfold nextDay
  split
  · exact daysSinceEpoch_succ
  split
  · next hlast hlt =>
    obtain rfl : day = monthLength year month := by omega
    exact daysSinceEpoch_nextMonth ⟨hm.1, hlt⟩
  · next hlast hlt =>
    obtain rfl : month = 12 := by omega
    obtain rfl : day = 31 := by
      simp only [monthLength] at hd hlast
      omega
    exact daysSinceEpoch_nextYear

theorem daysOf_previousDay (hm : 1 ≤ month ∧ month ≤ 12) (hd : 1 ≤ day) :
    daysOf (previousDay year month day) = daysSinceEpoch year month day - 1 := by
  unfold previousDay
  split
  · have h : daysSinceEpoch year month (day - 1 + 1) = _ := daysSinceEpoch_succ
    rw [Nat.sub_add_cancel hd] at h
    simp only [daysOf]
    omega
  obtain rfl : day = 1 := by omega
  split
  · have h : daysSinceEpoch year (month - 1 + 1) 1 = _ := daysSinceEpoch_nextMonth (by omega)
    rw [Nat.sub_add_cancel hm.1] at h
    simp only [daysOf]
    omega
  · obtain rfl : month = 1 := by omega
    have h : daysSinceEpoch (year - 1 + 1) 1 1 = _ := daysSinceEpoch_nextYear
    rw [Int.sub_add_cancel] at h
    simp only [daysOf]
    omega

/-! ## Points in time -/

variable {hour minute second nanos : Nat} {offset : Int} {t : Timestamp} {s : String}

theorem parts_of_ofParts? (h : ofParts? year month day hour minute second nanos = some t) :
    t.year = year ∧ t.month = month ∧ t.day = day ∧ t.hour = hour ∧ t.minute = minute ∧
      t.second = second ∧ t.nanos = nanos := by
  simp only [ofParts?, Option.dite_none_right_eq_some, Option.some.injEq] at h
  obtain ⟨_, _, _, _, _, rfl⟩ := h
  exact ⟨rfl, rfl, rfl, rfl, rfl, rfl, rfl⟩

/-- Some seconds into a day. -/
theorem seconds_of_ofParts? (date : Int × Nat × Nat) {k : Int} (hk : 0 ≤ k)
    (h : ofParts? date.1 date.2.1 date.2.2 (k.toNat / 3600) (k.toNat % 3600 / 60) (k.toNat % 60) nanos =
      some t) : t.unixSeconds = daysOf date * 86400 + k ∧ t.nanos = nanos := by
  obtain ⟨hyear, hmonth, hday, hhour, hminute, hsecond, hnanos⟩ := parts_of_ofParts? h
  refine ⟨?_, hnanos⟩
  rw [unixSeconds, hyear, hmonth, hday, hhour, hminute, hsecond, daysOf]
  omega

/-- What a clock shows is as many seconds after the point in time as it is ahead of UTC. -/
theorem seconds_of_ofLocal? (hm : 1 ≤ month ∧ month ≤ 12)
    (hd : 1 ≤ day ∧ day ≤ monthLength year month) (ht : hour < 24 ∧ minute < 60 ∧ second < 60)
    (ho : -86400 < offset ∧ offset < 86400)
    (h : ofLocal? year month day hour minute second nanos offset = some t) :
    t.unixSeconds =
        daysSinceEpoch year month day * 86400 + hour * 3600 + minute * 60 + second - offset ∧
      t.nanos = nanos := by
  unfold ofLocal? at h
  simp only at h
  split at h
  · obtain ⟨hs, hn⟩ := seconds_of_ofParts? (previousDay year month day) (by omega) h
    rw [daysOf_previousDay hm hd.1] at hs
    exact ⟨by omega, hn⟩
  split at h
  · obtain ⟨hs, hn⟩ := seconds_of_ofParts? (nextDay year month day) (by omega) h
    rw [daysOf_nextDay hm hd.2] at hs
    exact ⟨by omega, hn⟩
  · obtain ⟨hs, hn⟩ := seconds_of_ofParts? (year, month, day) (by omega) h
    simp only [daysOf] at hs
    exact ⟨by omega, hn⟩

theorem offset_of_zone {cs rest : List Char} (h : Zone cs offset rest) :
    -86400 < offset ∧ offset < 86400 := by
  cases h with
  | zulu _ => omega
  | utc _ _ _ => omega
  | offset hs _ _ hh hm =>
    rcases hs with ⟨-, rfl⟩ | ⟨-, rfl⟩ <;> omega

theorem isAt_of_ofLocal? {u : Timestamp} (hs : second ≤ 60) (ho : -86400 < offset ∧ offset < 86400)
    {last : Nat × Nat} (hl : last = if second = 60 then (59, nanos + 1000000000) else (second, nanos))
    (hu : ofParts? year month day hour minute last.1 last.2 = some u)
    (h : ofLocal? year month day hour minute last.1 last.2 offset = some t) :
    t.IsAt ⟨year, month, day, hour, minute, second, nanos, offset⟩ := by
  obtain ⟨rfl, rfl, rfl, rfl, rfl, hsecond, -⟩ := parts_of_ofParts? hu
  have hrange := u.time_range
  rw [hsecond] at hrange
  obtain ⟨hseconds, hnanos⟩ := seconds_of_ofLocal? u.month_range u.day_range hrange ho h
  have hlast : last.1 = min second 59 ∧
      last.2 = if second = 60 then nanos + 1000000000 else nanos := by
    rw [hl]
    by_cases h60 : second = 60
    · rw [if_pos h60, if_pos h60]
      exact ⟨by omega, rfl⟩
    · rw [if_neg h60, if_neg h60]
      exact ⟨by omega, rfl⟩
  obtain ⟨hlast₁, hlast₂⟩ := hlast
  refine ⟨u.month_range, u.day_range, ⟨hrange.1, hrange.2.1, hs⟩, ?_, hnanos.trans hlast₂⟩
  rw [hseconds, hlast₁]

/-- A text is read as the point in time that it names. -/
theorem names_of_ofText? (h : ofText? s = some t) : Names s t := by
  unfold ofText? at h
  obtain ⟨⟨year, cs₁⟩, hyear, h⟩ := Option.bind_eq_some_iff.mp h
  obtain ⟨cs₂, hdash₁, h⟩ := Option.bind_eq_some_iff.mp h
  obtain ⟨⟨month, cs₃⟩, hmonth, h⟩ := Option.bind_eq_some_iff.mp h
  obtain ⟨cs₄, hdash₂, h⟩ := Option.bind_eq_some_iff.mp h
  obtain ⟨⟨day, cs₅⟩, hday, h⟩ := Option.bind_eq_some_iff.mp h
  dsimp only at h
  split at h
  swap
  · cases h
  split at h
  swap
  · cases h
  next sep cs₅ hsep =>
  obtain ⟨cs₆, hcs, h⟩ := Option.bind_eq_some_iff.mp h
  obtain rfl := Option.some.inj hcs
  obtain ⟨⟨hour, cs₇⟩, hhour, h⟩ := Option.bind_eq_some_iff.mp h
  obtain ⟨cs₈, hcolon₁, h⟩ := Option.bind_eq_some_iff.mp h
  obtain ⟨⟨minute, cs₉⟩, hminute, h⟩ := Option.bind_eq_some_iff.mp h
  obtain ⟨cs₁₀, hcolon₂, h⟩ := Option.bind_eq_some_iff.mp h
  obtain ⟨⟨second, cs₁₁⟩, hsecond, h⟩ := Option.bind_eq_some_iff.mp h
  obtain ⟨⟨nanos, cs₁₂⟩, hnanos, h⟩ := Option.bind_eq_some_iff.mp h
  obtain ⟨⟨offset, cs₁₃⟩, hzone, h⟩ := Option.bind_eq_some_iff.mp h
  dsimp only at h
  split at h
  swap
  · cases h
  next hend =>
  obtain ⟨_, hlocal, h⟩ := Option.bind_eq_some_iff.mp h
  have hblank := blanks_trimStart cs₁₃
  rw [List.isEmpty_iff.mp hend.1] at hblank
  have hz := zone_of_takeZone hzone
  refine ⟨⟨year, month, day, hour, minute, second, nanos, offset⟩,
    .mk (year_of_takeYear hyear) (mark_of_takeMark hdash₁) (part_of_takePart hmonth)
      (mark_of_takeMark hdash₂) (part_of_takePart hday) hsep (part_of_takePart hhour)
      (mark_of_takeMark hcolon₁) (part_of_takePart hminute) (mark_of_takeMark hcolon₂)
      (part_of_takePart hsecond) (fraction_of_takeFraction hnanos) (blanks_trimStart cs₁₂) hz hblank,
    ?_⟩
  exact isAt_of_ofLocal? hend.2 (offset_of_zone hz) rfl hlocal h

end ClusterOperator.Timestamp
