import ResourceSync.Json.Basic

/-! Merge patches: objects are changed member by member, null takes a member away, and any other
value replaces what it meets. -/
namespace ResourceSync.Json

/-- The members without those of a name. -/
def withoutMember (name : String) (ms : List (String × Json)) : List (String × Json) :=
  ms.filter fun m => m.1 != name

/-- Puts a value in the place of the first member with this name, or behind all of them. -/
def setMember (name : String) (value : Json) : List (String × Json) → List (String × Json)
  | [] => [(name, value)]
  | (n, v) :: r => if n = name then (name, value) :: r else (n, v) :: setMember name value r

/-- Whether a document takes away the member it is merged into. -/
def isNull : Json → Bool
  | .null => true
  | _ => false

mutual

/-- The target after a patch. What is no object counts as an empty one when an object is merged
in. -/
def mergePatch (target : Json) : Json → Json
  | .obj patch => .obj (mergeMembers target.members patch)
  | patch => patch

def mergeMembers (ms : List (String × Json)) : List (String × Json) → List (String × Json)
  | [] => ms
  | (name, patch) :: r =>
    if patch.isNull then mergeMembers (withoutMember name ms) r
    else mergeMembers (setMember name (mergePatch ((find? name ms).getD .null) patch) ms) r

end

/-- A patch that turns `old`, where there is one, into `new`: all of the new members, and null for
every old one that is gone. -/
def replacementPatch (old : Option Json) (new : Json) : Json :=
  match old, new with
  | some (.obj old), .obj new =>
    let gone := old.filter fun m => (find? m.1 new).isNone
    .obj (new ++ gone.map fun m => (m.1, .null))
  | _, new => new

end ResourceSync.Json
