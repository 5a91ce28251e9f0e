import ResourceSync.SortedMap

/-! Label selectors: what they demand of a set of labels, and how they are written. -/
namespace ResourceSync

/-- Labels by key. -/
abbrev Labels := SortedMap String String

/-- One demand on a set of labels. -/
inductive Requirement where
  | equals (key value : String)
  | notEquals (key value : String)
  | oneOf (key : String) (members : List String)
  | noneOf (key : String) (members : List String)
  | present (key : String)
  | absent (key : String)
deriving DecidableEq, Repr

namespace Requirement

/-- Whether the labels meet the demand. A key that is absent is unequal to every value and in no
set. -/
def accepts (r : Requirement) (labels : Labels) : Bool :=
  match r with
  | equals key value => labels.get? key == some value
  | notEquals key value => labels.get? key != some value
  | oneOf key members => (labels.get? key).any members.contains
  | noneOf key members => (labels.get? key).all fun v => !members.contains v
  | present key => labels.contains key
  | absent key => !labels.contains key

def text : Requirement → String
  | equals key value => s!"{key}={value}"
  | notEquals key value => s!"{key}!={value}"
  | oneOf key members => key ++ " in (" ++ ",".intercalate members ++ ")"
  | noneOf key members => key ++ " notin (" ++ ",".intercalate members ++ ")"
  | present key => key
  | absent key => s!"!{key}"

end Requirement

/-- A conjunction of requirements. -/
structure Selector where
  requirements : List Requirement
deriving DecidableEq, Repr

namespace Selector

/-- The selector without requirements, which every object satisfies. -/
def everything : Selector := ⟨[]⟩

def accepts (s : Selector) (labels : Labels) : Bool :=
  s.requirements.all fun r => r.accepts labels

def isEmpty (s : Selector) : Bool := s.requirements.isEmpty

def text (s : Selector) : String := ",".intercalate (s.requirements.map Requirement.text)

theorem accepts_append {l₁ l₂ : List Requirement} {labels : Labels} :
    Selector.accepts ⟨l₁ ++ l₂⟩ labels =
      (Selector.accepts ⟨l₁⟩ labels && Selector.accepts ⟨l₂⟩ labels) := by
  simp [accepts]

end Selector

end ResourceSync
