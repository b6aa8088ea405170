/-!
# White space

Settings, team ids and secret values are trimmed by the Unicode property
`White_Space`, which holds more than the blanks of ASCII.
-/

namespace ClusterOperator.Text

/-- The property `White_Space`. -/
def isSpace (c : Char) : Bool :=
  let n := c.toNat
  (9 ≤ n && n ≤ 13) || n = 0x20 || n = 0x85 || n = 0xA0 || n = 0x1680 ||
    (0x2000 ≤ n && n ≤ 0x200A) || n = 0x2028 || n = 0x2029 || n = 0x202F || n = 0x205F || n = 0x3000

def trimStart (cs : List Char) : List Char := cs.dropWhile isSpace

/-- Without the white space at either end. -/
def trim (s : String) : String :=
  String.ofList (trimStart (trimStart s.toList).reverse).reverse

/-- Holds nothing but white space. -/
def isBlank (s : String) : Bool := s.toList.all isSpace

/-- The trimmed text, if anything is left of it. -/
def trimmed? (s : String) : Option String :=
  let t := trim s
  if t.isEmpty then none else some t

/-- Without the given characters at the end. -/
def dropEnd (c : Char) (s : String) : String :=
  String.ofList (s.toList.reverse.dropWhile (· = c)).reverse

end ClusterOperator.Text
