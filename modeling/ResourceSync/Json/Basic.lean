import ResourceSync.Binary64.Shortest
import ResourceSync.Json.TextError

/-! Documents: values that keep whole numbers apart from doubles and members in the order given. -/
namespace ResourceSync

/-- A document. Whole numbers within 64 bits are exact; any other number is a double. -/
inductive Json where
  | null
  | bool (b : Bool)
  | int (n : Int)
  | float (x : Binary64)
  | str (s : String)
  | arr (items : List Json)
  | obj (members : List (String × Json))
  /-- A part of a text that stands for no value. -/
  | unreadable (fault : Json.TextError)

namespace Json

instance : Inhabited Json := ⟨.null⟩

/-- A property of all that lists and objects hold passes on to them. -/
@[elab_as_elim]
theorem induct {motive : Json → Prop} (null : motive .null) (bool : ∀ b, motive (.bool b))
    (int : ∀ n, motive (.int n)) (float : ∀ x, motive (.float x)) (str : ∀ s, motive (.str s))
    (arr : ∀ items, (∀ j ∈ items, motive j) → motive (.arr items))
    (obj : ∀ ms, (∀ m ∈ ms, motive m.2) → motive (.obj ms))
    (unreadable : ∀ e, motive (.unreadable e)) (j : Json) : motive j :=
  @Json.rec motive (fun items => ∀ j ∈ items, motive j) (fun ms => ∀ m ∈ ms, motive m.2)
    (fun m => motive m.2) null bool int float str arr obj unreadable (by simp)
    (fun _ _ h hs => List.forall_mem_cons.2 ⟨h, hs⟩) (by simp)
    (fun _ _ h hs => List.forall_mem_cons.2 ⟨h, hs⟩) (fun _ _ h => h) j

mutual

/-- Whether two documents are the same, the members of objects in the same order. -/
def decEq (i j : Json) : Decidable (i = j) :=
  match i with
  | .null =>
    match j with
    | .null => isTrue rfl
    | .bool _ | .int _ | .float _ | .str _ | .arr _ | .obj _ | .unreadable _ => isFalse nofun
  | .bool a =>
    match j with
    | .bool b => decidable_of_iff (a = b) (by simp)
    | .null | .int _ | .float _ | .str _ | .arr _ | .obj _ | .unreadable _ => isFalse nofun
  | .int a =>
    match j with
    | .int b => decidable_of_iff (a = b) (by simp)
    | .null | .bool _ | .float _ | .str _ | .arr _ | .obj _ | .unreadable _ => isFalse nofun
  | .float a =>
    match j with
    | .float b => decidable_of_iff (a = b) (by simp)
    | .null | .bool _ | .int _ | .str _ | .arr _ | .obj _ | .unreadable _ => isFalse nofun
  | .str a =>
    match j with
    | .str b => decidable_of_iff (a = b) (by simp)
    | .null | .bool _ | .int _ | .float _ | .arr _ | .obj _ | .unreadable _ => isFalse nofun
  | .arr a =>
    match j with
    | .arr b =>
      match decEqItems a b with
      | isTrue h => isTrue (congrArg arr h)
      | isFalse h => isFalse fun heq => h (arr.inj heq)
    | .null | .bool _ | .int _ | .float _ | .str _ | .obj _ | .unreadable _ => isFalse nofun
  | .obj a =>
    match j with
    | .obj b =>
      match decEqMembers a b with
      | isTrue h => isTrue (congrArg obj h)
      | isFalse h => isFalse fun heq => h (obj.inj heq)
    | .null | .bool _ | .int _ | .float _ | .str _ | .arr _ | .unreadable _ => isFalse nofun
  | .unreadable a =>
    match j with
    | .unreadable b => decidable_of_iff (a = b) (by simp)
    | .null | .bool _ | .int _ | .float _ | .str _ | .arr _ | .obj _ => isFalse nofun

def decEqItems (l l' : List Json) : Decidable (l = l') :=
  match l, l' with
  | [], [] => isTrue rfl
  | [], _ :: _ | _ :: _, [] => isFalse nofun
  | i :: l, j :: l' =>
    match decEq i j, decEqItems l l' with
    | isTrue h, isTrue h' => isTrue (by rw [h, h'])
    | isFalse h, _ => isFalse fun heq => h (List.cons.inj heq).1
    | _, isFalse h => isFalse fun heq => h (List.cons.inj heq).2

def decEqMembers (l l' : List (String × Json)) : Decidable (l = l') :=
  match l, l' with
  | [], [] => isTrue rfl
  | [], _ :: _ | _ :: _, [] => isFalse nofun
  | (m, i) :: l, (n, j) :: l' =>
    match decEq i j, decEqMembers l l' with
    | isTrue h, isTrue h' => decidable_of_iff (m = n) (by simp [h, h'])
    | isFalse h, _ => isFalse fun heq => h (Prod.mk.inj (List.cons.inj heq).1).2
    | _, isFalse h => isFalse fun heq => h (List.cons.inj heq).2

end

instance : DecidableEq Json := decEq

/-- The members of an object; any other document has none. -/
def members : Json → List (String × Json)
  | .obj ms => ms
  | _ => []

/-- The value of the first member with this name. -/
def find? (name : String) (ms : List (String × Json)) : Option Json :=
  (ms.find? fun m => m.1 == name).map (·.2)

def get? (j : Json) (name : String) : Option Json := find? name j.members

/-- The member, and null where there is none. -/
def getD (j : Json) (name : String) : Json := (j.get? name).getD .null

/-- The text of a string document. -/
def text? : Json → Option String
  | .str s => some s
  | _ => none

/-- The text under a member; empty where there is none or it is no string. -/
def textD (j : Json) (name : String) : String := ((j.get? name).bind text?).getD ""

/-- Puts a member at its place in ascending order of names, in place of one with that name. -/
def place (name : String) (value : Json) : List (String × Json) → List (String × Json)
  | [] => [(name, value)]
  | (n, v) :: r =>
    if name < n then (name, value) :: (n, v) :: r
    else if n < name then (n, v) :: place name value r
    else (name, value) :: r

mutual

/-- The same document with the members of every object in ascending order of names; of members with
one name the last stays. -/
def canonical : Json → Json
  | .arr items => .arr (canonicalItems items)
  | .obj ms => .obj (canonicalMembers [] ms)
  | j => j

def canonicalItems : List Json → List Json
  | [] => []
  | j :: r => canonical j :: canonicalItems r

def canonicalMembers (done : List (String × Json)) : List (String × Json) → List (String × Json)
  | [] => done
  | (n, v) :: r => canonicalMembers (place n (canonical v) done) r

end

mutual

/-- The first fault within a document, in the order of its text. -/
def fault? : Json → Option TextError
  | .unreadable e => some e
  | .arr items => itemsFault? items
  | .obj ms => membersFault? ms
  | _ => none

def itemsFault? : List Json → Option TextError
  | [] => none
  | j :: r => (fault? j).or (itemsFault? r)

def membersFault? : List (String × Json) → Option TextError
  | [] => none
  | (_, v) :: r => (fault? v).or (membersFault? r)

end

/-- The escape sequence of a character inside a string, where it has one. -/
def escape? (c : Char) : Option (List Char) :=
  if c = '"' then some ['\\', '"']
  else if c = '\\' then some ['\\', '\\']
  else if c = '\n' then some ['\\', 'n']
  else if c = '\r' then some ['\\', 'r']
  else if c = '\t' then some ['\\', 't']
  else if c = '\x08' then some ['\\', 'b']
  else if c = '\x0c' then some ['\\', 'f']
  else if c.toNat < 32 then
    some ['\\', 'u', '0', '0', Nat.digitChar (c.toNat / 16), Nat.digitChar (c.toNat % 16)]
  else none

def quoted (s : String) : String :=
  String.ofList ('"' :: s.toList.flatMap (fun c => (escape? c).getD [c]) ++ ['"'])

mutual

/-- The text of a document without blanks. -/
def render : Json → String
  | .null | .unreadable _ => "null"
  | .bool b => if b then "true" else "false"
  | .int n => toString n
  | .float x => if x.isFinite then x.compact else "null"
  | .str s => quoted s
  | .arr items => "[" ++ renderItems items ++ "]"
  | .obj ms => "\x7b" ++ renderMembers ms ++ "\x7d"

def renderItems : List Json → String
  | [] => ""
  | [j] => render j
  | j :: r => render j ++ "," ++ renderItems r

def renderMembers : List (String × Json) → String
  | [] => ""
  | [(n, v)] => quoted n ++ ":" ++ render v
  | (n, v) :: r => quoted n ++ ":" ++ render v ++ "," ++ renderMembers r

end

end Json

end ResourceSync
