import ClusterOperator.Text.Printable

/-!
# Quoted text

The form in which error texts and descriptions show a text that may hold
anything.
-/

namespace ClusterOperator.Text

def hexText (n : Nat) : List Char := (Nat.toDigits 16 n)

/-- A character that is not shown as it is. -/
def codePointEscape (c : Char) : List Char := '\\' :: 'u' :: '{' :: hexText c.toNat ++ ['}']

def quotedChar (c : Char) : List Char :=
  if c = '\x00' then ['\\', '0']
  else if c = '\t' then ['\\', 't']
  else if c = '\r' then ['\\', 'r']
  else if c = '\n' then ['\\', 'n']
  else if c = '"' then ['\\', '"']
  else if c = '\\' then ['\\', '\\']
  else if isGraphemeExtend c || !isPrintable c then codePointEscape c
  else [c]

def quoted (s : String) : String :=
  String.ofList ('"' :: s.toList.flatMap quotedChar ++ ['"'])

end ClusterOperator.Text
