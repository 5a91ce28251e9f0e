import ResourceSync.Json.Basic

/-! Schemas: what the API server checks of a resource before it stores it. -/
namespace ResourceSync

/-- How a property may be missing. -/
inductive Presence where
  | required
  /-- May be missing or null. -/
  | optional
  /-- May be missing, and then stands for a value. -/
  | defaulted (value : Json)
  /-- May be missing, and then stands for no entries. -/
  | sparse

structure Property where
  name : String
  presence : Presence
  /-- What the property is; told by its schema, where it is not told here. -/
  about : Option String

/-- The values that a document may have. -/
inductive Schema where
  | text
  | matching (pattern : String)
  | boolean
  | double
  /-- Whole numbers without sign in a word of so many bits. -/
  | whole (bits : Nat)
  | choice (about : String) (names : List String)
  | list (item : Schema)
  | map (value : Schema)
  | record (about : Option String) (properties : List (Property × Schema))
  /-- Objects with exactly one of several members. -/
  | union (about : String) (variants : List (String × Schema))

namespace Property

def required (name : String) : Property := ⟨name, .required, none⟩

def optional (name : String) : Property := ⟨name, .optional, none⟩

def defaulted (name : String) (value : Json) : Property := ⟨name, .defaulted value, none⟩

def sparse (name : String) : Property := ⟨name, .sparse, none⟩

/-- Tells what a property is. -/
def told (p : Property) (about : String) : Property := { p with about := some about }

def isRequired (p : Property) : Bool :=
  match p.presence with
  | .required => true
  | _ => false

def description : Option String → List (String × Json)
  | none => []
  | some about => [("description", .str about)]

/-- What a property adds to its schema. -/
def members (p : Property) : List (String × Json) :=
  let presence : List (String × Json) := match p.presence with
    | .optional => [("nullable", .bool true)]
    | .defaulted value => [("default", value)]
    | .required | .sparse => []
  presence ++ description p.about

end Property

namespace Schema

def names (l : List String) : Json := .arr (l.map .str)

/-- A list of names in ascending order, where there are any. -/
def sortedNames (name : String) (l : List String) : List (String × Json) :=
  let sorted := l.foldl (fun done n => Json.place n .null done) []
  if sorted.isEmpty then [] else [(name, names (sorted.map (·.1)))]

mutual

/-- The members of the document that describes a schema. Where two have one name, the later one
counts. -/
def members : Schema → List (String × Json)
  | text => [("type", .str "string")]
  | matching pattern => [("type", .str "string"), ("pattern", .str pattern)]
  | boolean => [("type", .str "boolean")]
  | double => [("type", .str "number"), ("format", .str "double")]
  | whole bits =>
    [("type", .str "integer"), ("format", .str s!"uint{bits}"), ("minimum", .float .zero)]
  | choice about all =>
    [("type", .str "string"), ("description", .str about), ("enum", names all)]
  | list item => [("type", .str "array"), ("items", .obj item.members)]
  | map value => [("type", .str "object"), ("additionalProperties", .obj value.members)]
  | record about properties =>
    Property.description about ++
      [("type", .str "object"), ("properties", .obj (propertyMembers properties))] ++
      sortedNames "required" ((properties.filter fun p => p.1.isRequired).map fun p => p.1.name)
  | union about variants =>
    [("type", .str "object"), ("description", .str about),
      ("oneOf", .arr (variants.map fun v => .obj [("required", names [v.1])])),
      ("properties", .obj (variantMembers variants))]

def propertyMembers : List (Property × Schema) → List (String × Json)
  | [] => []
  | (p, s) :: r => (p.name, .obj (s.members ++ p.members)) :: propertyMembers r

def variantMembers : List (String × Schema) → List (String × Json)
  | [] => []
  | (name, s) :: r => (name, .obj s.members) :: variantMembers r

end

end Schema

end ResourceSync
