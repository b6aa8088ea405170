/-!
# Tables of code points

A table is written as a text of rows that are apart and in order, each for a run
of code points in hexadecimal digits:

* `41-5A` lists its code points,
* `A9=63.72` gives the same values for each of them,
* `41-5A>61` gives the first one `61`, the next one `62`, and so on,
* `100-12E~` gives every second one, from the first on, the code point after it.
-/

namespace ClusterOperator.Text

/-- What a row gives for its code points. -/
inductive Gift where
  | nothing
  | values
  | run
  | pairs
  deriving DecidableEq, Repr

structure Row where
  first : Nat
  last : Nat
  gift : Gift
  values : List Nat
  deriving DecidableEq, Repr

abbrev Table := Array Row

namespace Row

def value? (r : Row) (n : Nat) : Option (List Nat) :=
  match r.gift with
  | .nothing => none
  | .values => some r.values
  | .run => some (r.values.map (· + (n - r.first)))
  | .pairs => if (n - r.first) % 2 = 0 then some [n + 1] else none

end Row

namespace Table

/-- The row for a code point between two places of the table. -/
def search (t : Table) (n low high : Nat) : Option Row :=
  if low < high then
    let middle := (low + high) / 2
    match t[middle]? with
    | none => none
    | some r =>
      if n < r.first then search t n low middle
      else if r.last < n then search t n (middle + 1) high
      else some r
  else none
  termination_by high - low
  decreasing_by all_goals omega

def row? (t : Table) (n : Nat) : Option Row := t.search n 0 t.size

def holds (t : Table) (n : Nat) : Bool := (t.row? n).isSome

def value? (t : Table) (n : Nat) : Option (List Nat) := (t.row? n).bind (·.value? n)

/-! ## Reading -/

def digit (c : Char) : Nat :=
  if c.isDigit then c.toNat - '0'.toNat else c.toNat - 'A'.toNat + 10

def ofHex (cs : List Char) : Nat := cs.foldl (fun n c => n * 16 + digit c) 0

def splitAt (mark : Char) (cs : List Char) : List Char × List Char :=
  (cs.takeWhile (· ≠ mark), (cs.dropWhile (· ≠ mark)).drop 1)

/-- Values with dots between them. -/
def ofDotted (cs : List Char) : List Nat :=
  let (seen, n) := cs.foldl
    (fun (seen, n) c => if c = '.' then (n :: seen, 0) else (seen, n * 16 + digit c)) ([], 0)
  (n :: seen).reverse

def readRow (cs : List Char) : Row :=
  let marks := ['=', '>', '~']
  let span := cs.takeWhile (!marks.contains ·)
  let (first, last) := splitAt '-' span
  let first := ofHex first
  let last := if last.isEmpty then first else ofHex last
  match cs.drop span.length with
  | '=' :: [] => ⟨first, last, .values, []⟩
  | '=' :: values => ⟨first, last, .values, ofDotted values⟩
  | '>' :: values => ⟨first, last, .run, ofDotted values⟩
  | '~' :: _ => ⟨first, last, .pairs, []⟩
  | _ => ⟨first, last, .nothing, []⟩

/-- Rows with blanks between them. -/
def ofText (text : String) : Table :=
  let (rows, row) := text.toList.foldl
    (fun (rows, row) c =>
      if c = ' ' ∨ c = '\n' then
        (if row.isEmpty then (rows, []) else (rows.push (readRow row.reverse), []))
      else (rows, c :: row))
    ((#[] : Table), ([] : List Char))
  if row.isEmpty then rows else rows.push (readRow row.reverse)

end Table

end ClusterOperator.Text
