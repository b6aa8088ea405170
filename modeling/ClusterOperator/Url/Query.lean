import ClusterOperator.Url

/-!
# Queries of names and values
-/

namespace ClusterOperator.Url

/-- Characters of a form that stay as they are. -/
def isFormChar (c : Char) : Bool := c.isAlphanum || c = '*' || c = '-' || c = '.' || c = '_'

def formEscape (cs : List Char) : List Char :=
  cs.flatMap fun c =>
    if isFormChar c then [c]
    else if c = ' ' then ['+']
    else (String.utf8EncodeChar c).flatMap escapeByte

def formPair (name value : String) : List Char :=
  formEscape name.toList ++ '=' :: formEscape value.toList

/-- Adds a pair behind the query that is there. -/
def addPair (u : Url) (name value : String) : Url :=
  { u with
    query :=
      match u.query with
      | none | some [] => some (formPair name value)
      | some q => some (q ++ '&' :: formPair name value) }

/-- A URL with further pairs in its query. One that is not a URL stays as it is. -/
def withQuery (url : String) (pairs : List (String × String)) : String :=
  if pairs.isEmpty then url
  else
    match parse url with
    | .error _ => url
    | .ok u => (pairs.foldl (fun u (name, value) => u.addPair name value) u).text

end ClusterOperator.Url
