import ClusterOperator.Resource.Team
import ClusterOperator.Store.Error

/-!
# Stored objects

A store gives each stored object a version, and takes a write only from a writer
that has seen the latest one. Metadata and status are written apart.
-/

namespace ClusterOperator.Store

open Resource (Metadata ObjectKey)

/-- Objects that a store can keep. -/
class Kept (α : Type) where
  metadata : α → Metadata
  withMetadata : α → Metadata → α
  /-- The first object with the second's status. -/
  withStatusOf : α → α → α

instance : Kept Resource.Cluster where
  metadata c := c.metadata
  withMetadata c m := { c with metadata := m }
  withStatusOf c d := { c with status := d.status }

instance : Kept Resource.Team where
  metadata t := t.metadata
  withMetadata t m := { t with metadata := m }
  withStatusOf t u := { t with status := u.status }

/-- Objects by key, and the number of the latest version. -/
structure Memory (α : Type) where
  objects : List (ObjectKey × α)
  version : Nat

namespace Memory

variable {α : Type}

def empty : Memory α := ⟨[], 0⟩

def get? (m : Memory α) (key : ObjectKey) : Option α := m.objects.lookup key

def erase (m : Memory α) (key : ObjectKey) : Memory α :=
  { m with objects := m.objects.filter (·.1 ≠ key) }

variable [Kept α]

open Kept

def versionOf (a : α) : Option String := (metadata a).resourceVersion

/-- Stores an object under the next version, and answers it as it is stored. -/
def put (m : Memory α) (key : ObjectKey) (a : α) : α × Memory α :=
  let version := m.version + 1
  let stored := withMetadata a { metadata a with resourceVersion := some (toString version) }
  (stored, ⟨(key, stored) :: (m.erase key).objects, version⟩)

/-- Stores an object as another writer gives it. -/
def insert (m : Memory α) (a : α) : Memory α := (m.put (metadata a).key a).2

/-- The stored object, if the writer has seen its latest version. -/
def current (m : Memory α) (a : α) : Except Error α :=
  let key := (metadata a).key
  match m.get? key with
  | none => .error (.notFound key.text)
  | some stored =>
    if versionOf stored = versionOf a then .ok stored
    else .error (.conflict "stale resourceVersion")

/-- Takes over the finalizers. An object that is to go goes with the last one. -/
def replaceMetadata (m : Memory α) (a : α) : Except Error α × Memory α :=
  match m.current a with
  | .error e => (.error e, m)
  | .ok stored =>
    let key := (metadata a).key
    let metadata' := { metadata stored with finalizers := (metadata a).finalizers }
    let (stored, m) := m.put key (withMetadata stored metadata')
    if metadata'.isDeleting && metadata'.finalizerList.isEmpty then (.ok stored, m.erase key)
    else (.ok stored, m)

/-- Takes over the status. -/
def replaceStatus (m : Memory α) (a : α) : Except Error α × Memory α :=
  match m.current a with
  | .error e => (.error e, m)
  | .ok stored =>
    let (stored, m) := m.put (metadata a).key (withStatusOf stored a)
    (.ok stored, m)

/-- Marks an object as to go, or removes it if nothing holds it. -/
def requestDeletion (m : Memory α) (key : ObjectKey) (now : Timestamp) : Memory α :=
  match m.get? key with
  | none => m
  | some stored =>
    if (metadata stored).finalizerList.isEmpty then m.erase key
    else (m.put key (withMetadata stored { metadata stored with deletionTimestamp := some now })).2

end Memory

end ClusterOperator.Store
