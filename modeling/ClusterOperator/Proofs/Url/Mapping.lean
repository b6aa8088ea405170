import ClusterOperator.Proofs.Text.Table
import ClusterOperator.Text.Composed
import ClusterOperator.Url.Domain.Mapping

/-!
# Characters that stand for themselves

The tables of characters are checked row by row: a character is spelled in characters that stand
for themselves, and one that is composed of two stands for itself if both do, and only then.
-/

namespace ClusterOperator.Url

open Text
open Text.Table (checkClear rowsFrom)

/-- Whether a code point stands for itself, by the trees of the tables. -/
def isKept (refused ignored replaced : Tree) (n : Nat) : Bool :=
  n < 0x110000 &&
    if n < 0x80 then !(0x41 ≤ n && n ≤ 0x5A)
    else (refused.find? n).isNone && (ignored.find? n).isNone &&
      ((replaced.find? n).bind (·.value? n)).isNone

/-- Whether all that a row gives is kept. -/
def givesKept (kept : Nat → Bool) (r : Row) : Bool :=
  match r.gift with
  | .nothing => true
  | .values => r.values.all kept
  | .run => (List.range (r.last + 1 - r.first)).all fun k => r.values.all fun v => kept (v + k)
  | .pairs => (List.range (r.last + 1 - r.first)).all fun k => k % 2 = 1 || kept (r.first + k + 1)

/-- Whether a composed character is kept if the two that it is composed of are, and only then. -/
def composesKept (kept : Nat → Bool) (r : Row) : Bool :=
  match r.values with
  | [a, b] => kept r.first = (kept a && kept b)
  | _ => true

/-- No letter or syllable of Hangul and no ideograph is in a row. -/
def clearOfScripts (rows : List Row) : Bool :=
  checkClear 0x1100 0x1112 rows && checkClear 0x1161 0x1175 rows && checkClear 0x11A8 0x11C2 rows &&
    checkClear 0xAC00 0xD7A3 rows && checkClear 0x4E00 0x9FFF rows

def checkMapping (refused ignored replaced composites : List Row) : Bool :=
  refused.any (fun r => r.first ≤ 0xD800 && 0xDFFF ≤ r.last) &&
    clearOfScripts refused && clearOfScripts ignored && clearOfScripts replaced &&
    checkTree 0x80 10 refused fun refusedTree =>
      checkTree 0x80 4 ignored fun ignoredTree =>
        checkTree 0 12 replaced fun replacedTree =>
          replaced.all (givesKept (isKept refusedTree ignoredTree replacedTree)) &&
            composites.all (composesKept (isKept refusedTree ignoredTree replacedTree))

set_option maxRecDepth 100000 in
theorem mapping_checked :
    checkMapping refused.toList ignored.toList replaced.toList composites.toList = true := by
  have read (as bs cs ds : List Char)
      (h : checkMapping (rowsFrom none as) (rowsFrom none bs) (rowsFrom none cs)
        (rowsFrom none ds) = true) :
      checkMapping (Table.ofText (String.ofList as)).toList (Table.ofText (String.ofList bs)).toList
        (Table.ofText (String.ofList cs)).toList (Table.ofText (String.ofList ds)).toList = true := by
    simp only [Table.toList_ofText]
    exact h
  unfold refused ignored replaced composites
  apply read
  decide +kernel

end ClusterOperator.Url
