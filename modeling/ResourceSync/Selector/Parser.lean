import ResourceSync.Selector.Basic
import ResourceSync.Text.Blank
import ResourceSync.Text.Cut

/-! The written form of label selectors: requirements between commas, sets in parentheses. -/
namespace ResourceSync

/-- Why a selector is refused; `raw` is the requirement at fault. -/
inductive SelectorFault where
  | unexpectedClose
  | unclosedOpen
  | missingClose (raw : String)
  | textAfterClose (raw : String)
  | emptySet (raw : String)
  | unexpectedToken (raw : String)
  | unknownOperator (operator raw : String)
  | unexpectedBlank (raw : String)
  | emptyKey
  | blankInKey (key : String)
deriving DecidableEq, Repr

def SelectorFault.message : SelectorFault → String
  | .unexpectedClose => "unexpected ')'"
  | .unclosedOpen => "unclosed '('"
  | .missingClose raw => s!"missing ')' in '{raw}'"
  | .textAfterClose raw => s!"unexpected text after ')' in '{raw}'"
  | .emptySet raw => s!"empty value set in '{raw}'"
  | .unexpectedToken raw => s!"unexpected token in '{raw}'"
  | .unknownOperator operator raw => s!"unknown set operator '{operator}' in '{raw}'"
  | .unexpectedBlank raw => s!"unexpected whitespace in '{raw}'"
  | .emptyKey => "empty label key"
  | .blankInKey key => s!"label key '{key}' contains whitespace"

/-- A selector that was refused, and why. -/
structure SelectorError where
  selector : String
  fault : SelectorFault
deriving DecidableEq, Repr

def SelectorError.message (e : SelectorError) : String :=
  s!"invalid label selector '{e.selector}': {e.fault.message}"

namespace Selector

/-- Puts a character in front of the first part. -/
def extendFirst (c : Char) : List (List Char) → List (List Char)
  | [] => [[c]]
  | part :: parts => (c :: part) :: parts

/-- The parts between the commas outside parentheses; `depth` parentheses are open. -/
def splitParts : Nat → List Char → Except SelectorFault (List (List Char))
  | depth, [] => if depth = 0 then .ok [[]] else .error .unclosedOpen
  | depth, c :: r =>
    if c = '(' then (splitParts (depth + 1) r).map (extendFirst c)
    else if c = ')' then
      match depth with
      | 0 => .error .unexpectedClose
      | depth + 1 => (splitParts depth r).map (extendFirst c)
    else if c = ',' ∧ depth = 0 then (splitParts 0 r).map ([] :: ·)
    else (splitParts depth r).map (extendFirst c)

/-- The key, unless it is empty or has a blank inside. -/
def validKey (key : List Char) : Except SelectorFault String :=
  if key.isEmpty then .error .emptyKey
  else if key.any Text.isBlank then .error (.blankInKey (String.ofList key))
  else .ok (String.ofList key)

/-- The members between the parentheses, without blanks around them and without empty ones. -/
def setMembers (inside : List Char) : List String :=
  (((Text.splitOn ',' inside).map Text.trim).filter fun v => !v.isEmpty).map String.ofList

/-- A requirement with a set: `head` stands before the parenthesis, `rest` behind it. -/
def parseSet (raw : String) (head rest : List Char) : Except SelectorFault Requirement :=
  match Text.cutLast? ')' rest with
  | none => .error (.missingClose raw)
  | some (inside, behind) =>
    if !(Text.trim behind).isEmpty then .error (.textAfterClose raw)
    else
      let members := setMembers inside
      if members.isEmpty then .error (.emptySet raw)
      else
        match Text.words head with
        | _ :: _ :: _ :: _ => .error (.unexpectedToken raw)
        | words =>
          let key := words.headD []
          let operator := (words.drop 1).headD []
          if operator = ['i', 'n'] then (validKey key).map (.oneOf · members)
          else if operator = ['n', 'o', 't', 'i', 'n'] then (validKey key).map (.noneOf · members)
          else .error (.unknownOperator (String.ofList operator) raw)

/-- One requirement, written without blanks around it. -/
def parseRequirement (raw : List Char) : Except SelectorFault Requirement :=
  match Text.after? ['!'] raw with
  | some key => (validKey (Text.trim key)).map .absent
  | none =>
    match Text.cut? ['!', '='] raw with
    | some (key, value) =>
      (validKey (Text.trim key)).map (.notEquals · (String.ofList (Text.trim value)))
    | none =>
      match (Text.cut? ['=', '='] raw).or (Text.cut? ['='] raw) with
      | some (key, value) =>
        (validKey (Text.trim key)).map (.equals · (String.ofList (Text.trim value)))
      | none =>
        match Text.cut? ['('] raw with
        | some (head, rest) => parseSet (String.ofList raw) head rest
        | none =>
          if raw.any Text.isBlank then .error (.unexpectedBlank (String.ofList raw))
          else (validKey raw).map .present

/-- The requirements of a text, in order. Parts of blanks alone are passed over. -/
def parseRequirements (s : List Char) : Except SelectorFault (List Requirement) := do
  let parts ← splitParts 0 s
  ((parts.map Text.trim).filter fun part => !part.isEmpty).mapM parseRequirement

def parse (s : String) : Except SelectorError Selector :=
  match parseRequirements s.toList with
  | .ok requirements => .ok ⟨requirements⟩
  | .error fault => .error ⟨s, fault⟩

end Selector

end ResourceSync
