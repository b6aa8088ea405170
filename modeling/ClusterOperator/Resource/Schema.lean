import ClusterOperator.Json.Basic

/-!
# Schemas of resources

The part of OpenAPI schemas that the definitions of the operator's resources are
written in.
-/

namespace ClusterOperator.Resource

/-- A schema, by its keywords. -/
structure Schema where
  keywords : Json.Fields

namespace Schema

def toJson (s : Schema) : Json := .obj s.keywords

def withKeyword (s : Schema) (name : String) (value : Json) : Schema :=
  ⟨s.keywords ++ [(name, value)]⟩

def ofKind (name : String) : Schema := ⟨[("type", name)]⟩

def text : Schema := .ofKind "string"

def boolean : Schema := .ofKind "boolean"

def int32 : Schema := (ofKind "integer").withKeyword "format" "int32"

def int64 : Schema := (ofKind "integer").withKeyword "format" "int64"

def list (items : Schema) : Schema := (ofKind "array").withKeyword "items" items.toJson

def about (s : Schema) (description : String) : Schema := s.withKeyword "description" description

/-- The value of an object that leaves the field out. -/
def orElse (s : Schema) (value : Json) : Schema := s.withKeyword "default" value

def orNull (s : Schema) : Schema := s.withKeyword "nullable" true

/-- A field of an object, with its description if it has one. -/
structure Property where
  name : String
  isRequired : Bool
  schema : Schema

def Property.required (name : String) (schema : Schema) : Property := ⟨name, true, schema⟩

def Property.optional (name : String) (schema : Schema) : Property := ⟨name, false, schema⟩

/-- An object. Its required fields are listed in order of their names. -/
def record (properties : List Property) : Schema :=
  let names := ((properties.filter (·.isRequired)).map (·.name)).mergeSort fun a b => a ≤ b
  let s := (ofKind "object").withKeyword "properties"
    (.obj (properties.map fun p => (p.name, p.schema.toJson)))
  if names.isEmpty then s else s.withKeyword "required" (.arr (names.map .string))

end Schema

end ClusterOperator.Resource
