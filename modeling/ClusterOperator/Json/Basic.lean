import ClusterOperator.Double

/-!
# JSON documents

A text is read into a tree that keeps the place where it stops being JSON, so
that a reader of records, walking the tree in the order of the text, meets
either a value of the wrong shape or the end of the readable part, whichever
comes first.
-/

namespace ClusterOperator

/-- Why a document cannot be read. -/
inductive Json.Fault where
  /-- The text is not JSON. -/
  | malformed
  /-- The text ends too early. -/
  | truncated
  /-- The text is JSON of another shape. -/
  | mismatch
  deriving DecidableEq, Repr

inductive Json.Number where
  | int (value : Int)
  /-- Written with a fraction or an exponent, as minus zero, or too large for a
  word of 64 bits. -/
  | double (value : Double)
  deriving DecidableEq, Repr

mutual

inductive Json where
  | null
  | bool (value : Bool)
  | number (value : Json.Number)
  | string (value : String)
  /-- A token that faults when it is read. With `onSkip = none` it is still
  well formed enough to be passed over, such as half a surrogate pair. -/
  | broken (onRead : Json.Fault) (onSkip : Option Json.Fault)
  | array (items : Json.Items)
  | object (members : Json.Members)

/-- The items of an array, which the text may cut short. -/
inductive Json.Items where
  | nil
  | cut (fault : Json.Fault)
  | cons (head : Json) (tail : Json.Items)

/-- The members of an object. A key that can only be passed over is `none`. -/
inductive Json.Members where
  | nil
  | cut (onRead onSkip : Json.Fault)
  | cons (key : Option String) (value : Json) (tail : Json.Members)

end

namespace Json

def Items.ofList : List Json → Items
  | [] => .nil
  | j :: js => .cons j (ofList js)

def Items.toList : Items → List Json
  | .nil => []
  | .cut _ => []
  | .cons j js => j :: js.toList

def Members.ofList : List (String × Json) → Members
  | [] => .nil
  | (k, j) :: ms => .cons (some k) j (ofList ms)

def Members.toList : Members → List (String × Json)
  | .nil => []
  | .cut _ _ => []
  | .cons (some k) j ms => (k, j) :: ms.toList
  | .cons none _ ms => ms.toList

def arr (items : List Json) : Json := .array (.ofList items)

def obj (members : List (String × Json)) : Json := .object (.ofList members)

def int (i : Int) : Json := .number (.int i)

/-- Members as they are written. -/
abbrev Fields := List (String × Json)

/-- A member that is left out when there is no value. -/
def optional {α : Type} (name : String) (value : Option α) (write : α → Json) :
    Fields :=
  match value with
  | some a => [(name, write a)]
  | none => []

instance : Inhabited Json := ⟨.null⟩

instance : Coe String Json := ⟨.string⟩

instance : Coe Bool Json := ⟨.bool⟩

/-- The members of an object, none for another value. -/
def members : Json → List (String × Json)
  | .object ms => ms.toList
  | _ => []

/-- The items of an array, none for another value. -/
def items : Json → List Json
  | .array js => js.toList
  | _ => []

/-- The first member of that name. -/
def member? (j : Json) (name : String) : Option Json := j.members.lookup name

def text? : Json → Option String
  | .string s => some s
  | _ => none

def bool? : Json → Option Bool
  | .bool b => some b
  | _ => none

def int? : Json → Option Int
  | .number (.int i) => some i
  | _ => none

/-- A member that is present and not null. -/
def given? (j : Json) (name : String) : Option Json :=
  match j.member? name with
  | some .null => none
  | found => found

/-! Members with a value for their absence. -/

def valueAt (j : Json) (name : String) : Json := (j.member? name).getD .null

def textAt (j : Json) (name : String) (absent : String) : String :=
  ((j.member? name).bind text?).getD absent

def natAt (j : Json) (name : String) (absent : Nat) : Nat :=
  ((j.member? name).bind int?).elim absent Int.toNat

def boolAt (j : Json) (name : String) (absent : Bool) : Bool :=
  ((j.member? name).bind bool?).getD absent

def itemsAt (j : Json) (name : String) : List Json := (j.valueAt name).items

mutual

/-- Changes every text that is a value; keys stay. -/
def mapText (f : String → String) : Json → Json
  | .string s => .string (f s)
  | .array items => .array (items.mapText f)
  | .object members => .object (members.mapText f)
  | j => j

def Items.mapText (f : String → String) : Items → Items
  | .nil => .nil
  | .cut fault => .cut fault
  | .cons j js => .cons (j.mapText f) (js.mapText f)

def Members.mapText (f : String → String) : Members → Members
  | .nil => .nil
  | .cut onRead onSkip => .cut onRead onSkip
  | .cons key j ms => .cons key (j.mapText f) (ms.mapText f)

end

mutual

/-- The fault that passing over a value without reading it runs into. -/
def skipFault : Json → Option Fault
  | .broken _ onSkip => onSkip
  | .array items => items.skipFault
  | .object members => members.skipFault
  | _ => none

def Items.skipFault : Items → Option Fault
  | .nil => none
  | .cut fault => some fault
  | .cons head tail =>
    match head.skipFault with
    | some fault => some fault
    | none => tail.skipFault

def Members.skipFault : Members → Option Fault
  | .nil => none
  | .cut _ onSkip => some onSkip
  | .cons _ value tail =>
    match value.skipFault with
    | some fault => some fault
    | none => tail.skipFault

end

/-- The fault of reading a value as a kind that it is not: a broken token
faults first. -/
def clash : Json → Fault
  | .broken onRead _ => onRead
  | _ => .mismatch

end Json

end ClusterOperator
