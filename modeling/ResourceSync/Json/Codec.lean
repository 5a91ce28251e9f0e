import ResourceSync.Json.DecodeError
import ResourceSync.SortedMap

/-! Codecs: how values of a type are read from documents and written to them. -/
namespace ResourceSync

/-- How a document comes to its reader. Values out of an object whose members several records share
are looser about what has no content, and count what is too much in another way. -/
inductive Passage where
  | direct
  | shared
deriving DecidableEq, Repr

/-- A reader and a writer of one type. -/
structure Codec (α : Type) where
  read : Passage → Json → Decoded α
  encode : α → Json

namespace Codec
variable {α β : Type}

/-- Reads a document that comes directly. -/
def decode (c : Codec α) : Json → Decoded α := c.read .direct

/-- What is written reads back as the same value. -/
def Lawful (c : Codec α) : Prop := ∀ p a, c.read p (c.encode a) = .ok a

/-- A codec that reads in one way however the document comes. -/
def uniform (decode : Json → Decoded α) (encode : α → Json) : Codec α := ⟨fun _ => decode, encode⟩

def text : Codec String := uniform (fun
    | .str s => .ok s
    | j => .error (.wrongType j "a string"))
  .str

theorem lawful_text : text.Lawful := fun _ _ => rfl

def bool : Codec Bool := uniform (fun
    | .bool b => .ok b
    | j => .error (.wrongType j "a boolean"))
  .bool

theorem lawful_bool : bool.Lawful := fun _ _ => rfl

/-- Doubles. A whole number is read as the double nearest to it, and null stands for a double that
is not finite. -/
def binary64 : Codec Binary64 := uniform (fun
    | .float x => .ok x
    | .int n => .ok (.ofInt n)
    | j => .error (.wrongType j "f64"))
  fun x => if x.isFinite then .float x else .null

/-- Whole numbers from `low` on and below `high`, under the name of the word that holds them. -/
def wholeNumber (word : String) (low high : Int) : Json → Decoded Int
  | .int n => if low ≤ n ∧ n < high then .ok n else .error (.outOfRange n word)
  | j => .error (.wrongType j word)

theorem map_wholeNumber {word : String} {low high n : Int} {f : Int → α} (h₁ : low ≤ n)
    (h₂ : n < high) : (wholeNumber word low high (.int n)).map f = .ok (f n) := by
  rw [wholeNumber, if_pos ⟨h₁, h₂⟩]
  rfl

def uint16 : Codec UInt16 :=
  uniform (fun j => (wholeNumber "u16" 0 65536 j).map fun n => .ofNat n.toNat)
    fun n => .int n.toNat

theorem lawful_uint16 : uint16.Lawful := by
  intro _ n
  have h : (n.toNat : Int) < 65536 := by have := n.toNat_lt; omega
  unfold uint16 uniform
  dsimp only
  rw [map_wholeNumber (Int.natCast_nonneg _) h, Int.toNat_natCast, UInt16.ofNat_toNat]

def uint32 : Codec UInt32 :=
  uniform (fun j => (wholeNumber "u32" 0 4294967296 j).map fun n => .ofNat n.toNat)
    fun n => .int n.toNat

theorem lawful_uint32 : uint32.Lawful := by
  intro _ n
  have h : (n.toNat : Int) < 4294967296 := by have := n.toNat_lt; omega
  unfold uint32 uniform
  dsimp only
  rw [map_wholeNumber (Int.natCast_nonneg _) h, Int.toNat_natCast, UInt32.ofNat_toNat]

def uint64 : Codec UInt64 :=
  uniform (fun j => (wholeNumber "u64" 0 18446744073709551616 j).map fun n => .ofNat n.toNat)
    fun n => .int n.toNat

theorem lawful_uint64 : uint64.Lawful := by
  intro _ n
  have h : (n.toNat : Int) < 18446744073709551616 := by have := n.toNat_lt; omega
  unfold uint64 uniform
  dsimp only
  rw [map_wholeNumber (Int.natCast_nonneg _) h, Int.toNat_natCast, UInt64.ofNat_toNat]

def int64 : Codec Int64 :=
  uniform (fun j => (wholeNumber "i64" (-9223372036854775808) 9223372036854775808 j).map .ofInt)
    fun n => .int n.toInt

/-- Documents of any shape, as they are. -/
def document : Codec Json :=
  uniform (fun j => (j.fault?.map fun e => .error (.malformed e.message)).getD (.ok j)) id

/-- A value or null. -/
def option (c : Codec α) : Codec (Option α) where
  read
    | _, .null => .ok none
    | p, j => (c.read p j).map some
  encode
    | none => .null
    | some a => c.encode a

def list (c : Codec α) : Codec (List α) where
  read
    | p, .arr items => items.mapM (c.read p)
    | _, j => .error (.wrongType j "a sequence")
  encode l := .arr (l.map c.encode)

/-- Maps from names. Of two members with one name the later one counts. -/
def map (c : Codec α) : Codec (SortedMap String α) where
  read
    | p, .obj ms => ms.foldlM (fun m e => do return m.insert e.1 (← c.read p e.2)) ∅
    | _, j => .error (.wrongType j "a map")
  encode m := .obj (m.toList.map fun e => (e.1, c.encode e.2))

/-- The one member of an object that stands for a variant with its content. -/
def variant : Json → Decoded (String × Option Json)
  | .str s => .ok (s, none)
  | .obj [(name, content)] => .ok (name, some content)
  | .obj _ => .error .severalKeys
  | j => .error (.wrongType j "string or map")

/-- Whether a document stands for no content. -/
def isVoid : Passage → Json → Bool
  | _, .null => true
  | .shared, .obj [] => true
  | _, _ => false

/-- An enumeration of names. A name may also stand as the one member of an object, without
content. -/
def choice (all : List α) (name : α → String) : Codec α where
  read p j := do
    let (given, content) ← variant j
    match all.find? fun a => name a == given with
    | none => .error (.unknownVariant given (all.map name))
    | some a =>
      match content with
      | none => .ok a
      | some j => if isVoid p j then .ok a else .error (.wrongType j "unit")
  encode a := .str (name a)

/-- One alternative of a tagged union: its name, and how its content is read and written. -/
structure Arm (α : Type) where
  name : String
  read : Passage → Json → Decoded α
  encode? : α → Option Json

/-- The alternative `wrap`, recognized by `unwrap?`. -/
def Arm.of (name : String) (c : Codec β) (wrap : β → α) (unwrap? : α → Option β) : Arm α where
  name := name
  read p j := (c.read p j).map wrap
  encode? a := (unwrap? a).map c.encode

/-- A union of alternatives with content: an object whose one member names the alternative. -/
def union (arms : List (Arm α)) : Codec α where
  read p j := do
    let (given, content) ← variant j
    match arms.find? fun a => a.name == given with
    | none => .error (.unknownVariant given (arms.map (·.name)))
    | some a =>
      match content with
      | none => .error .bareVariant
      | some j => a.read p j
  encode a :=
    .obj ((arms.findSome? fun arm => (arm.encode? a).map fun j => (arm.name, j)).toList)

end Codec

end ResourceSync
