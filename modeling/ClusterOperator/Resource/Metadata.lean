import ClusterOperator.Json.Record
import ClusterOperator.Provider.Codec

/-!
# Object metadata

What every object of the cluster's API server carries. Parts that the operator
never looks at are kept, so that an object can be written back whole.
-/

namespace ClusterOperator.Resource

open Json

structure OwnerReference where
  apiVersion : String
  blockOwnerDeletion : Option Bool
  controller : Option Bool
  kind : String
  name : String
  uid : String
  deriving DecidableEq, Repr

/-- Which fields of an object a writer has set. -/
structure ManagedFields where
  apiVersion : Option String
  fieldsType : Option String
  fieldsV1 : Option Json
  manager : Option String
  operation : Option String
  subresource : Option String
  time : Option Timestamp

structure Metadata where
  annotations : Option (List (String × String))
  creationTimestamp : Option Timestamp
  deletionGracePeriodSeconds : Option Int64
  deletionTimestamp : Option Timestamp
  finalizers : Option (List String)
  generateName : Option String
  generation : Option Int64
  labels : Option (List (String × String))
  managedFields : Option (List ManagedFields)
  name : Option String
  ns : Option String
  ownerReferences : Option (List OwnerReference)
  resourceVersion : Option String
  selfLink : Option String
  uid : Option String

/-- The place of an object: its namespace and name. -/
structure ObjectKey where
  ns : String
  name : String
  deriving DecidableEq, Repr

/-- As in log lines and in the operator's own tables. -/
def ObjectKey.text (k : ObjectKey) : String := k.ns ++ "/" ++ k.name

namespace Metadata

def empty : Metadata :=
  ⟨none, none, none, none, none, none, none, none, none, none, none, none, none, none, none⟩

instance : Inhabited Metadata := ⟨empty⟩

/-- The name, or the stem that a name is to be made from. -/
def anyName (m : Metadata) : String := (m.name <|> m.generateName).getD ""

def key (m : Metadata) : ObjectKey := ⟨m.ns.getD "", m.anyName⟩

def finalizerList (m : Metadata) : List String := m.finalizers.getD []

def isDeleting (m : Metadata) : Bool := m.deletionTimestamp.isSome

def hasFinalizer (m : Metadata) (finalizer : String) : Bool := m.finalizerList.any (· = finalizer)

def addFinalizer (m : Metadata) (finalizer : String) : Metadata :=
  { m with finalizers := some (m.finalizerList ++ [finalizer]) }

/-- Removes every copy of a finalizer. -/
def removeFinalizer (m : Metadata) (finalizer : String) : Metadata :=
  { m with finalizers := some (m.finalizerList.filter (· ≠ finalizer)) }

end Metadata

/-! ## As JSON -/

/-- A field that may be absent or null. -/
def maybe {α : Type} (name : String) (read : Read α) : RecordField (Option α) :=
  .optional name (readOption read) none

/-- A field whose absence or null is a blank value. -/
def orBlank {α : Type} (name : String) (read : Read α) (blank : α) : RecordField α :=
  .optional name (fun j => (·.getD blank) <$> readOption read j) blank

mutual

/-- Reads any value as it is. -/
def readPlain : Nat → Read Json
  | _, .broken onRead _ => .error onRead
  | 0, .array _ => .error .malformed
  | 0, .object _ => .error .malformed
  | depth + 1, .array items => .array <$> readPlainItems depth items
  | depth + 1, .object members => .object <$> readPlainMembers depth members
  | _, j => .ok j

def readPlainItems : Nat → Items → Except Fault Items
  | _, .nil => .ok .nil
  | _, .cut fault => .error fault
  | depth, .cons head tail =>
    match readPlain depth head with
    | .error e => .error e
    | .ok head => .cons head <$> readPlainItems depth tail

def readPlainMembers : Nat → Members → Except Fault Members
  | _, .nil => .ok .nil
  | _, .cut onRead _ => .error onRead
  | _, .cons none _ _ => .error .malformed
  | depth, .cons (some key) value tail =>
    match readPlain depth value with
    | .error e => .error e
    | .ok value => .cons (some key) value <$> readPlainMembers depth tail

end

def writeStamp (t : Timestamp) : Json := .string t.toSecondsText

def writeMap (m : List (String × String)) : Json := .obj (m.map fun (k, v) => (k, .string v))

namespace OwnerReference

def read (depth : Nat) : Read OwnerReference :=
  Draft.readNamed depth <|
    (Draft.make OwnerReference.mk).and (orBlank "apiVersion" readString "")
      |>.and (maybe "blockOwnerDeletion" readBool)
      |>.and (maybe "controller" readBool)
      |>.and (orBlank "kind" readString "")
      |>.and (orBlank "name" readString "")
      |>.and (orBlank "uid" readString "")

def toJson (r : OwnerReference) : Json :=
  .obj <| ([("apiVersion", r.apiVersion)] : Fields) ++
    Json.optional "blockOwnerDeletion" r.blockOwnerDeletion .bool ++
    Json.optional "controller" r.controller .bool ++
    ([("kind", r.kind), ("name", r.name), ("uid", r.uid)] : Fields)

end OwnerReference

namespace ManagedFields

def read (depth : Nat) : Read ManagedFields :=
  Draft.readNamed depth <|
    (Draft.make ManagedFields.mk).and (maybe "apiVersion" readString)
      |>.and (maybe "fieldsType" readString)
      |>.and (maybe "fieldsV1" (readPlain (depth - 1)))
      |>.and (maybe "manager" readString)
      |>.and (maybe "operation" readString)
      |>.and (maybe "subresource" readString)
      |>.and (maybe "time" Provider.readTimestamp)

def toJson (m : ManagedFields) : Json :=
  .obj <| Json.optional "apiVersion" m.apiVersion .string ++
    Json.optional "fieldsType" m.fieldsType .string ++
    Json.optional "fieldsV1" m.fieldsV1 id ++
    Json.optional "manager" m.manager .string ++
    Json.optional "operation" m.operation .string ++
    Json.optional "subresource" m.subresource .string ++
    Json.optional "time" m.time writeStamp

end ManagedFields

namespace Metadata

def read (depth : Nat) : Read Metadata :=
  Draft.readNamed depth <|
    (Draft.make Metadata.mk).and (maybe "annotations" (readMap (depth - 1) readString))
      |>.and (maybe "creationTimestamp" Provider.readTimestamp)
      |>.and (maybe "deletionGracePeriodSeconds" readInt64)
      |>.and (maybe "deletionTimestamp" Provider.readTimestamp)
      |>.and (maybe "finalizers" (readList (depth - 1) readString))
      |>.and (maybe "generateName" readString)
      |>.and (maybe "generation" readInt64)
      |>.and (maybe "labels" (readMap (depth - 1) readString))
      |>.and (maybe "managedFields" (readList (depth - 1) (ManagedFields.read (depth - 2))))
      |>.and (maybe "name" readString)
      |>.and (maybe "namespace" readString)
      |>.and (maybe "ownerReferences" (readList (depth - 1) (OwnerReference.read (depth - 2))))
      |>.and (maybe "resourceVersion" readString)
      |>.and (maybe "selfLink" readString)
      |>.and (maybe "uid" readString)

def toJson (m : Metadata) : Json :=
  .obj <| Json.optional "annotations" m.annotations writeMap ++
    Json.optional "creationTimestamp" m.creationTimestamp writeStamp ++
    Json.optional "deletionGracePeriodSeconds" m.deletionGracePeriodSeconds (.int ·.toInt) ++
    Json.optional "deletionTimestamp" m.deletionTimestamp writeStamp ++
    Json.optional "finalizers" m.finalizers (fun fs => .arr (fs.map .string)) ++
    Json.optional "generateName" m.generateName .string ++
    Json.optional "generation" m.generation (.int ·.toInt) ++
    Json.optional "labels" m.labels writeMap ++
    Json.optional "managedFields" m.managedFields (fun fs => .arr (fs.map ManagedFields.toJson)) ++
    Json.optional "name" m.name .string ++
    Json.optional "namespace" m.ns .string ++
    Json.optional "ownerReferences" m.ownerReferences (fun rs => .arr (rs.map OwnerReference.toJson)) ++
    Json.optional "resourceVersion" m.resourceVersion .string ++
    Json.optional "selfLink" m.selfLink .string ++
    Json.optional "uid" m.uid .string

end Metadata

end ClusterOperator.Resource
