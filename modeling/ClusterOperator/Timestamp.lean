import ClusterOperator.Power
import ClusterOperator.Text.Digit
import ClusterOperator.Text.Space

/-!
# Points in time

A timestamp is a date and a time of day in UTC. It is read from a lenient form
of RFC 3339: parts may be set apart by white space, the zone may have any
offset below a day, and a sixtieth second is kept as a leap second.
-/

namespace ClusterOperator

namespace Timestamp

def isLeapYear (year : Int) : Bool :=
  year % 4 = 0 && (year % 100 != 0 || year % 400 = 0)

def monthLength (year : Int) (month : Nat) : Nat :=
  match month with
  | 2 => if isLeapYear year then 29 else 28
  | 4 | 6 | 9 | 11 => 30
  | _ => 31

/-- The years that a timestamp can have. -/
def minYear : Int := -262143

def maxYear : Int := 262142

end Timestamp

/-- A leap second is the last second of its minute with `nanos` past a billion. -/
structure Timestamp where
  year : Int
  month : Nat
  day : Nat
  hour : Nat
  minute : Nat
  second : Nat
  nanos : Nat
  year_range : Timestamp.minYear ≤ year ∧ year ≤ Timestamp.maxYear
  month_range : 1 ≤ month ∧ month ≤ 12
  day_range : 1 ≤ day ∧ day ≤ Timestamp.monthLength year month
  time_range : hour < 24 ∧ minute < 60 ∧ second < 60
  nanos_range : nanos < if second = 59 then 2000000000 else 1000000000
  deriving DecidableEq

namespace Timestamp

/-- A timestamp of these parts, if they are in range. -/
def ofParts? (year : Int) (month day hour minute second nanos : Nat) : Option Timestamp :=
  if hy : minYear ≤ year ∧ year ≤ maxYear then
    if hm : 1 ≤ month ∧ month ≤ 12 then
      if hd : 1 ≤ day ∧ day ≤ monthLength year month then
        if ht : hour < 24 ∧ minute < 60 ∧ second < 60 then
          if hn : nanos < if second = 59 then 2000000000 else 1000000000 then
            some ⟨year, month, day, hour, minute, second, nanos, hy, hm, hd, ht, hn⟩
          else none
        else none
      else none
    else none
  else none

/-! ## Dates -/

def nextDay (year : Int) (month day : Nat) : Int × Nat × Nat :=
  if day < monthLength year month then (year, month, day + 1)
  else if month < 12 then (year, month + 1, 1)
  else (year + 1, 1, 1)

def previousDay (year : Int) (month day : Nat) : Int × Nat × Nat :=
  if 1 < day then (year, month, day - 1)
  else if 1 < month then (year, month - 1, monthLength year (month - 1))
  else (year - 1, 12, 31)

/-- The same point in time for a clock that was `offset` seconds ahead of UTC.
The offset is less than a day. -/
def ofLocal? (year : Int) (month day hour minute second nanos : Nat) (offset : Int) :
    Option Timestamp :=
  let local_ : Int := hour * 3600 + minute * 60 + second
  let utc := local_ - offset
  let (date, time) : (Int × Nat × Nat) × Int :=
    if utc < 0 then (previousDay year month day, utc + 86400)
    else if 86400 ≤ utc then (nextDay year month day, utc - 86400)
    else ((year, month, day), utc)
  let time := time.toNat
  ofParts? date.1 date.2.1 date.2.2 (time / 3600) (time % 3600 / 60) (time % 60) nanos

/-- Days since 1970-01-01 of a date in the Gregorian calendar. -/
def daysSinceEpoch (year : Int) (month day : Nat) : Int :=
  let y := if month ≤ 2 then year - 1 else year
  let era := y.fdiv 400
  let yearOfEra := y - era * 400
  let monthOfYear : Int := ((month + 9) % 12 : Nat)
  let dayOfYear := (153 * monthOfYear + 2) / 5 + day - 1
  era * 146097 + yearOfEra * 365 + yearOfEra / 4 - yearOfEra / 100 + dayOfYear - 719468

def unixSeconds (t : Timestamp) : Int :=
  daysSinceEpoch t.year t.month t.day * 86400 + t.hour * 3600 + t.minute * 60 + t.second

/-! ## Writing -/

def twoDigits (n : Nat) : List Char :=
  [Char.ofNat ('0'.toNat + n / 10), Char.ofNat ('0'.toNat + n % 10)]

def padded (width n : Nat) : List Char := Text.zeroPadded width (toString n).toList

/-- Years of four digits stand alone, all others have a sign. -/
def yearText (year : Int) : List Char :=
  if 0 ≤ year ∧ year ≤ 9999 then padded 4 year.toNat
  else (if year < 0 then '-' else '+') :: padded 4 year.natAbs

/-- The fraction in the fewest of zero, three, six or nine digits. -/
def fractionText (nanos : Nat) : List Char :=
  if nanos = 0 then []
  else if nanos % 1000000 = 0 then '.' :: padded 3 (nanos / 1000000)
  else if nanos % 1000 = 0 then '.' :: padded 6 (nanos / 1000)
  else '.' :: padded 9 nanos

def dateTimeText (t : Timestamp) : List Char :=
  let leap := 1000000000 ≤ t.nanos
  yearText t.year ++ '-' :: twoDigits t.month ++ '-' :: twoDigits t.day ++ 'T' :: twoDigits t.hour ++
    ':' :: twoDigits t.minute ++ ':' :: twoDigits (if leap then t.second + 1 else t.second)

/-- RFC 3339 with the fraction of the second. -/
def toText (t : Timestamp) : String :=
  String.ofList (t.dateTimeText ++ fractionText (t.nanos % 1000000000) ++ ['Z'])

/-- RFC 3339 in whole seconds. -/
def toSecondsText (t : Timestamp) : String := String.ofList (t.dateTimeText ++ ['Z'])

/-! ## Reading -/

abbrev Take (α : Type) := Option (α × List Char)

/-- One to `max` digits. -/
def takeDigits (max : Nat) (cs : List Char) : Take Nat :=
  let digits := (cs.take max).takeWhile Char.isDigit
  if digits.isEmpty then none
  else some (Text.ofDigits digits, cs.drop digits.length)

def takePart (max : Nat) (cs : List Char) : Take Nat := takeDigits max (Text.trimStart cs)

/-- With a sign a year may have any number of digits. -/
def takeYear (cs : List Char) : Take Int :=
  match Text.trimStart cs with
  | '-' :: rest => (takeDigits rest.length rest).map fun (n, rest) => (-(n : Int), rest)
  | '+' :: rest => (takeDigits rest.length rest).map fun (n, rest) => ((n : Int), rest)
  | rest => (takeDigits 4 rest).map fun (n, rest) => ((n : Int), rest)

def takeMark (mark : Char) (cs : List Char) : Option (List Char) :=
  match Text.trimStart cs with
  | c :: rest => if c = mark then some rest else none
  | [] => none

/-- The fraction of a second in nanoseconds; digits past the ninth are cut. -/
def takeFraction (cs : List Char) : Take Nat :=
  match cs with
  | '.' :: rest =>
    (takeDigits 9 rest).map fun (n, after) =>
      (n * 10 ^ (9 - (rest.length - after.length)), after.dropWhile Char.isDigit)
  | rest => some (0, rest)

/-- Seconds ahead of UTC: `Z`, `UTC`, or hours and minutes after a sign. -/
def takeZone (cs : List Char) : Take Int :=
  match cs with
  | 'Z' :: rest => some (0, rest)
  | 'z' :: rest => some (0, rest)
  | u :: t :: c :: rest =>
    if (u = 'U' ∨ u = 'u') ∧ (t = 'T' ∨ t = 't') ∧ (c = 'C' ∨ c = 'c') then some (0, rest)
    else
      let sign : Option Int :=
        if u = '+' then some 1 else if u = '-' ∨ u = '−' then some (-1) else none
      match sign with
      | none => none
      | some sign =>
        if t.isDigit ∧ c.isDigit then
          match rest.dropWhile (fun c => c = ':' || Text.isSpace c) with
          | m :: n :: rest =>
            if '0' ≤ m ∧ m ≤ '5' ∧ n.isDigit then
              let hours := Text.ofDigits [t, c]
              let minutes := Text.ofDigits [m, n]
              if hours < 24 then some (sign * (hours * 3600 + minutes * 60 : Nat), rest) else none
            else none
          | _ => none
        else none
  | _ => none

def ofText? (s : String) : Option Timestamp := do
  let (year, cs) ← takeYear s.toList
  let cs ← takeMark '-' cs
  let (month, cs) ← takePart 2 cs
  let cs ← takeMark '-' cs
  let (day, cs) ← takePart 2 cs
  let cs ←
    match cs with
    | c :: rest => if c = 'T' ∨ c = 't' ∨ c = ' ' then some rest else none
    | [] => none
  let (hour, cs) ← takePart 2 cs
  let cs ← takeMark ':' cs
  let (minute, cs) ← takePart 2 cs
  let cs ← takeMark ':' cs
  let (second, cs) ← takePart 2 cs
  let (nanos, cs) ← takeFraction cs
  let (offset, cs) ← takeZone (Text.trimStart cs)
  if (Text.trimStart cs).isEmpty ∧ second ≤ 60 then
    -- the local date must exist before it is moved to UTC
    let (second, nanos) := if second = 60 then (59, nanos + 1000000000) else (second, nanos)
    let _ ← ofParts? year month day hour minute second nanos
    ofLocal? year month day hour minute second nanos offset
  else none

end Timestamp

end ClusterOperator
