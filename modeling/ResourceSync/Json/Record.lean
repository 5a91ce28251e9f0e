import ResourceSync.Json.Codec

/-! Records: values made of named fields, read from the members of an object in one visit of
each. -/
namespace ResourceSync

/-- One field of a record. -/
structure Field (α : Type) where
  name : String
  codec : Codec α
  /-- What an object without the member stands for; nothing, where the member is required. -/
  absent : Option α
  /-- What a list that ends before the field stands for. -/
  absentItem : Option α
  /-- The values that are not written. -/
  isOmitted : α → Bool

namespace Field
variable {α : Type}

def required (name : String) (c : Codec α) : Field α := ⟨name, c, none, none, fun _ => false⟩

/-- A field that is always written and may be missing. -/
def defaulted (name : String) (c : Codec α) (value : α) : Field α :=
  ⟨name, c, some value, some value, fun _ => false⟩

/-- A field that may be null or missing, and is missing where it has no value. -/
def optional (name : String) (c : Codec α) : Field (Option α) :=
  ⟨name, c.option, some none, some none, Option.isNone⟩

/-- A map that is written only where it has entries. -/
def sparseMap (name : String) (c : Codec α) : Field (SortedMap String α) :=
  ⟨name, c.map, some ∅, some ∅, SortedMap.isEmpty⟩

end Field

/-- The fields of a record in the order of their declaration. -/
inductive Fields : Type → Type 1 where
  | nil : Fields Unit
  | cons {α β : Type} (field : Field α) (rest : Fields β) : Fields (α × β)

namespace Fields
variable {τ : Type}

/-- The values of the fields that have been read so far. -/
def Slots : {τ : Type} → Fields τ → Type
  | _, .nil => Unit
  | _, @cons α _ _ rest => Option α × rest.Slots

def vacant : {τ : Type} → (fs : Fields τ) → fs.Slots
  | _, .nil => ()
  | _, .cons _ rest => (none, rest.vacant)

def count : {τ : Type} → Fields τ → Nat
  | _, .nil => 0
  | _, .cons _ rest => rest.count + 1

def names : {τ : Type} → Fields τ → List String
  | _, .nil => []
  | _, .cons f rest => f.name :: rest.names

/-- Reads one member; a member that is no field is passed over. A field that is given again is
refused, or counts instead of the one before where fields may repeat. -/
def fill (repeats : Bool) (p : Passage) :
    {τ : Type} → (fs : Fields τ) → fs.Slots → String × Json → Decoded fs.Slots
  | _, .nil, _, _ => .ok ()
  | _, @cons α _ f rest, slots, m =>
    let slots : Option α × rest.Slots := slots
    if m.1 = f.name then
      if slots.1.isSome && !repeats then .error (.duplicateField f.name)
      else (f.codec.read p m.2).map fun a => (some a, slots.2)
    else (fill repeats p rest slots.2 m).map fun tail => (slots.1, tail)

/-- The record once all members are read; the first field without a value is the one reported. -/
def finish : {τ : Type} → (fs : Fields τ) → fs.Slots → Decoded τ
  | _, .nil, _ => .ok ()
  | _, @cons α _ f rest, slots =>
    let slots : Option α × rest.Slots := slots
    match slots.1.or f.absent with
    | none => .error (.missingField f.name)
    | some a => (rest.finish slots.2).map fun t => (a, t)

def readMembers (fs : Fields τ) (repeats : Bool) (p : Passage) (ms : List (String × Json)) :
    Decoded τ := do
  fs.finish (← ms.foldlM (fs.fill repeats p) fs.vacant)

/-- A number of elements in words. -/
def elements (n : Nat) : String := if n = 1 then "1 element" else s!"{n} elements"

/-- What is said of a list that goes on after all `count` fields. -/
def excess (p : Passage) (count : Nat) : String :=
  match p with
  | .direct => "fewer elements in array"
  | .shared => elements count ++ " in sequence"

/-- Reads the fields from a list of their values; `index` fields were read before. -/
def readItems (wanted : String) (p : Passage) : {τ : Type} → Nat → Fields τ → List Json → Decoded τ
  | _, _, .nil, [] => .ok ()
  | _, index, .nil, rest => .error (.wrongLength (index + rest.length) (excess p index))
  | _, index, .cons f rest, [] =>
    match f.absentItem with
    | none => .error (.wrongLength index wanted)
    | some a => (readItems wanted p (index + 1) rest []).map fun t => (a, t)
  | _, index, .cons f rest, j :: js => do
    let a ← f.codec.read p j
    let t ← readItems wanted p (index + 1) rest js
    return (a, t)

def encode : {τ : Type} → Fields τ → τ → List (String × Json)
  | _, .nil, () => []
  | _, .cons f rest, (a, t) =>
    if f.isOmitted a then rest.encode t else (f.name, f.codec.encode a) :: rest.encode t

end Fields

/-- A record type as the tuple of its fields. -/
structure Layout (α : Type) where
  Tuple : Type
  /-- The type as diagnostics call it. -/
  name : String
  /-- Whether the values of the fields may also stand in a list. -/
  listable : Bool
  /-- Whether a field may be given again, the last time counting. -/
  repeats : Bool
  fields : Fields Tuple
  toTuple : α → Tuple
  ofTuple : Tuple → α

namespace Layout
variable {α τ : Type}

/-- A record whose fields may also stand in a list. -/
def record (name : String) (fields : Fields τ) (toTuple : α → τ) (ofTuple : τ → α) : Layout α :=
  ⟨τ, "struct " ++ name, true, false, fields, toTuple, ofTuple⟩

def readMembers (l : Layout α) (p : Passage) (ms : List (String × Json)) : Decoded α :=
  (l.fields.readMembers l.repeats p ms).map l.ofTuple

def encodeMembers (l : Layout α) (a : α) : List (String × Json) := l.fields.encode (l.toTuple a)

def codec (l : Layout α) : Codec α where
  read
    | p, .obj ms => l.readMembers p ms
    | p, .arr items =>
      if l.listable then
        let wanted := s!"{l.name} with {Fields.elements l.fields.count}"
        (l.fields.readItems wanted p 0 items).map l.ofTuple
      else .error (.wrongType (.arr items) l.name)
    | _, j => .error (.wrongType j l.name)
  encode a := .obj (l.encodeMembers a)

end Layout

end ResourceSync
