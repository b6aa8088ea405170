import ClusterOperator.Json.Text

/-!
# Reading records from JSON

A record is read member by member in the order of the text. Members of unknown
name are passed over, a second member of a known name is a mismatch, and what
is still missing at the end takes its default if it has one. A record may also
be given as an array of its fields in their order of declaration.

Containers may be opened `depthLimit` deep; what is passed over does not count.
-/

namespace ClusterOperator.Json

abbrev Read (α : Type) := Json → Except Fault α

def depthLimit : Nat := 127

def readString : Read String
  | .string s => .ok s
  | j => .error j.clash

def readBool : Read Bool
  | .bool b => .ok b
  | j => .error j.clash

/-- An integer, written without fraction or exponent, within bounds. -/
def readInt (lo hi : Int) : Read Int
  | .number (.int i) => if lo ≤ i ∧ i ≤ hi then .ok i else .error .mismatch
  | j => .error j.clash

def readInt32 : Read Int32 := fun j => Int32.ofInt <$> readInt (-2 ^ 31) (2 ^ 31 - 1) j

def readInt64 : Read Int64 := fun j => Int64.ofInt <$> readInt (-2 ^ 63) (2 ^ 63 - 1) j

def readUInt16 : Read UInt16 := fun j => (UInt16.ofNat ·.toNat) <$> readInt 0 (2 ^ 16 - 1) j

def readUInt64 : Read UInt64 := fun j => (UInt64.ofNat ·.toNat) <$> readInt 0 (2 ^ 64 - 1) j

def readOption {α : Type} (read : Read α) : Read (Option α)
  | .null => .ok none
  | j => some <$> read j

def readItemsWith {α : Type} (read : Read α) : Items → Except Fault (List α)
  | .nil => .ok []
  | .cut fault => .error fault
  | .cons head tail =>
    match read head with
    | .error e => .error e
    | .ok a =>
      match readItemsWith read tail with
      | .error e => .error e
      | .ok as => .ok (a :: as)

/-- A list at the given depth; `read` is for one level deeper. -/
def readList {α : Type} (depth : Nat) (read : Read α) : Read (List α)
  | .array items => if depth = 0 then .error .malformed else readItemsWith read items
  | j => .error j.clash

/-- Puts an entry into a map that is sorted by key; a later entry replaces an
earlier one. -/
def putEntry {α : Type} (key : String) (value : α) : List (String × α) → List (String × α)
  | [] => [(key, value)]
  | (k, v) :: rest =>
    if key = k then (key, value) :: rest
    else if key < k then (key, value) :: (k, v) :: rest
    else (k, v) :: putEntry key value rest

def readEntries {α : Type} (read : Read α) (seen : List (String × α)) :
    Members → Except Fault (List (String × α))
  | .nil => .ok seen
  | .cut onRead _ => .error onRead
  | .cons none _ _ => .error .malformed
  | .cons (some key) value tail =>
    match read value with
    | .error e => .error e
    | .ok a => readEntries read (putEntry key a seen) tail

/-- An object whose keys are data, in order of the keys. -/
def readMap {α : Type} (depth : Nat) (read : Read α) : Read (List (String × α))
  | .object members => if depth = 0 then .error .malformed else readEntries read [] members
  | j => .error j.clash

/-- A field of a record. A field with no value for its absence is required. -/
structure RecordField (α : Type) where
  name : String
  read : Read α
  /-- The value in an object without the member. -/
  absent : Option α
  /-- The value in an array that ends before the field. -/
  unlisted : Option α

def RecordField.required {α : Type} (name : String) (read : Read α) : RecordField α :=
  ⟨name, read, none, none⟩

def RecordField.optional {α : Type} (name : String) (read : Read α) (absent : α) : RecordField α :=
  ⟨name, read, some absent, some absent⟩

/-- A field that an object may do without, or have as null, but not an array. -/
def RecordField.nullable {α : Type} (name : String) (read : Read α) : RecordField (Option α) :=
  ⟨name, readOption read, some none, none⟩

/-- A record under construction: how it is made, and its fields so far. -/
inductive Draft : Type → Type 1 where
  | make {α : Type} (value : α) : Draft α
  | field {α β : Type} (rest : Draft (β → α)) (field : RecordField β) (found : Option β) :
    Draft α

namespace Draft

/-- Adds the next field in order of declaration. -/
def and {α β : Type} (rest : Draft (β → α)) (field : RecordField β) : Draft α :=
  .field rest field none

/-- Takes a member, unless its name is unknown. -/
def accept (repeats : Bool) (name : String) (value : Json) :
    {α : Type} → Draft α → Option (Except Fault (Draft α))
  | _, .make _ => none
  | _, .field rest f found =>
    if f.name = name then
      if found.isSome && !repeats then some (.error .mismatch)
      else
        match f.read value with
        | .ok b => some (.ok (.field rest f (some b)))
        | .error e => some (.error e)
    else
      match rest.accept repeats name value with
      | none => none
      | some (.ok rest) => some (.ok (.field rest f found))
      | some (.error e) => some (.error e)

def fill {α : Type} (repeats : Bool) (d : Draft α) : Members → Except Fault (Draft α)
  | .nil => .ok d
  | .cut onRead _ => .error onRead
  | .cons none _ _ => .error .malformed
  | .cons (some key) value tail =>
    match d.accept repeats key value with
    | some (.ok d) => d.fill repeats tail
    | some (.error e) => .error e
    | none =>
      match value.skipFault with
      | some fault => .error fault
      | none => d.fill repeats tail

/-- The record, once all members were taken. -/
def finish : {α : Type} → Draft α → Except Fault α
  | _, .make a => .ok a
  | _, .field rest f found =>
    match rest.finish with
    | .error e => .error e
    | .ok build =>
      match found, f.absent with
      | some b, _ => .ok (build b)
      | none, some b => .ok (build b)
      | none, none => .error .mismatch

/-- Takes the fields from an array in order, and gives back the items left. -/
def place : {α : Type} → Draft α → Items → Except Fault (α × Items)
  | _, .make a, items => .ok (a, items)
  | _, .field rest f _, items =>
    match rest.place items with
    | .error e => .error e
    | .ok (_, .cut fault) => .error fault
    | .ok (build, .nil) =>
      match f.unlisted with
      | some b => .ok (build b, .nil)
      | none => .error .mismatch
    | .ok (build, .cons head tail) =>
      match f.read head with
      | .ok b => .ok (build b, tail)
      | .error e => .error e

/-- A record from an object or from an array of its fields. -/
def read {α : Type} (depth : Nat) (d : Draft α) : Read α
  | .object members =>
    if depth = 0 then .error .malformed
    else
      match d.fill false members with
      | .error e => .error e
      | .ok d => d.finish
  | .array items =>
    if depth = 0 then .error .malformed
    else
      match d.place items with
      | .error e => .error e
      | .ok (a, .nil) => .ok a
      | .ok (_, .cut fault) => .error fault
      | .ok (_, .cons _ _) => .error .malformed
  | j => .error j.clash

/-- A record from an object alone; the last of several members of one name counts. -/
def readNamed {α : Type} (depth : Nat) (d : Draft α) : Read α
  | .object members =>
    if depth = 0 then .error .malformed
    else
      match d.fill true members with
      | .error e => .error e
      | .ok d => d.finish
  | .array _ => .error (if depth = 0 then .malformed else .mismatch)
  | j => .error j.clash

end Draft

/-- Reads a whole text. -/
def readText {α : Type} (read : Read α) (text : String) : Except Fault α :=
  let doc := parse text
  match read doc.value with
  | .error e => .error e
  | .ok a => if doc.trailing then .error .malformed else .ok a

/-- Reads a value that has been parsed before: all that can be wrong is its shape. -/
def readTree {α : Type} (read : Read α) (value : Json) : Except Fault α :=
  match read value with
  | .error _ => .error .mismatch
  | .ok a => .ok a

end ClusterOperator.Json
