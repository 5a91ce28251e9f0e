import ResourceSync.Kind.IdStatus
import ResourceSync.Kind.SpecError
import ResourceSync.Remote.Entity

/-! Rule groups: rules that parse logs, in subgroups of which the first matching rule wins. -/
namespace ResourceSync

/-- Puts the value of a named group of a pattern into a field. -/
structure ParseRule where
  destinationField : String
  regex : String
deriving DecidableEq, Repr

def ParseRule.layout : Layout ParseRule := .record "ParseRule"
  (.cons (.required "destinationField" .text) <| .cons (.required "regex" .text) .nil)
  (fun r => (r.destinationField, r.regex, ()))
  (fun (destinationField, regex, ()) => ⟨destinationField, regex⟩)

/-- Drops the logs that match a pattern. -/
structure BlockRule where
  regex : String
  keepBlockedLogs : Bool
deriving DecidableEq, Repr

def BlockRule.layout : Layout BlockRule := .record "BlockRule"
  (.cons (.required "regex" .text) <| .cons (.defaulted "keepBlockedLogs" .bool false) .nil)
  (fun r => (r.regex, r.keepBlockedLogs, ()))
  (fun (regex, keepBlockedLogs, ()) => ⟨regex, keepBlockedLogs⟩)

/-- Replaces what matches a pattern. -/
structure ReplaceRule where
  destinationField : String
  regex : String
  replacement : String
deriving DecidableEq, Repr

def ReplaceRule.layout : Layout ReplaceRule := .record "ReplaceRule"
  (.cons (.required "destinationField" .text) <|
    .cons (.required "regex" .text) <|
    .cons (.required "replacement" .text) .nil)
  (fun r => (r.destinationField, r.regex, r.replacement, ()))
  (fun (destinationField, regex, replacement, ()) => ⟨destinationField, regex, replacement⟩)

/-- Lifts the value under a key out of a document. -/
structure JsonExtractRule where
  destinationField : String
  jsonKey : String
deriving DecidableEq, Repr

/-- The layout of an extraction, which is called differently in a spec and in a body. -/
def JsonExtractRule.layout (name : String) : Layout JsonExtractRule := .record name
  (.cons (.required "destinationField" .text) <| .cons (.required "jsonKey" .text) .nil)
  (fun r => (r.destinationField, r.jsonKey, ()))
  (fun (destinationField, jsonKey, ()) => ⟨destinationField, jsonKey⟩)

inductive RuleAction where
  | parse (rule : ParseRule)
  | block (rule : BlockRule)
  | replace (rule : ReplaceRule)
  | jsonExtract (rule : JsonExtractRule)
deriving DecidableEq, Repr

namespace RuleAction

def parse? : RuleAction → Option ParseRule
  | .parse r => some r
  | _ => none

def block? : RuleAction → Option BlockRule
  | .block r => some r
  | _ => none

def replace? : RuleAction → Option ReplaceRule
  | .replace r => some r
  | _ => none

def jsonExtract? : RuleAction → Option JsonExtractRule
  | .jsonExtract r => some r
  | _ => none

def codec : Codec RuleAction := .union
  [.of "parse" ParseRule.layout.codec .parse parse?,
    .of "block" BlockRule.layout.codec .block block?,
    .of "replace" ReplaceRule.layout.codec .replace replace?,
    .of "jsonExtract" (JsonExtractRule.layout "JsonExtractRule").codec .jsonExtract jsonExtract?]

end RuleAction

structure Rule where
  name : String
  description : Option String
  active : Bool
  sourceField : String
  action : RuleAction
deriving DecidableEq, Repr

def Rule.layout : Layout Rule := .record "Rule"
  (.cons (.required "name" .text) <|
    .cons (.optional "description" .text) <|
    .cons (.defaulted "active" .bool true) <|
    .cons (.defaulted "sourceField" .text "text") <|
    .cons (.required "action" RuleAction.codec) .nil)
  (fun r => (r.name, r.description, r.active, r.sourceField, r.action, ()))
  (fun (name, description, active, sourceField, action, ()) =>
    ⟨name, description, active, sourceField, action⟩)

structure RuleSubgroup where
  active : Bool
  order : Option UInt32
  rules : List Rule
deriving DecidableEq, Repr

def RuleSubgroup.layout : Layout RuleSubgroup := .record "RuleSubgroup"
  (.cons (.defaulted "active" .bool true) <|
    .cons (.optional "order" .uint32) <|
    .cons (.required "rules" (.list Rule.layout.codec)) .nil)
  (fun s => (s.active, s.order, s.rules, ()))
  (fun (active, order, rules, ()) => ⟨active, order, rules⟩)

structure RuleGroupSpec where
  name : String
  description : Option String
  active : Bool
  order : Option UInt32
  subgroups : List RuleSubgroup
deriving DecidableEq, Repr

def RuleGroupSpec.layout : Layout RuleGroupSpec := .record "RuleGroupSpec"
  (.cons (.required "name" .text) <|
    .cons (.optional "description" .text) <|
    .cons (.defaulted "active" .bool true) <|
    .cons (.optional "order" .uint32) <|
    .cons (.defaulted "subgroups" (.list RuleSubgroup.layout.codec) []) .nil)
  (fun s => (s.name, s.description, s.active, s.order, s.subgroups, ()))
  (fun (name, description, active, order, subgroups, ()) =>
    ⟨name, description, active, order, subgroups⟩)

/-- The parameters of an extraction with a pattern on the platform. -/
structure ExtractParameters where
  destinationField : String
  rule : String
deriving DecidableEq, Repr

def ExtractParameters.layout : Layout ExtractParameters := .record "ExtractParameters"
  (.cons (.required "destinationField" .text) <| .cons (.required "rule" .text) .nil)
  (fun p => (p.destinationField, p.rule, ()))
  (fun (destinationField, rule, ()) => ⟨destinationField, rule⟩)

structure BlockParameters where
  rule : String
  keepBlockedLogs : Bool
deriving DecidableEq, Repr

def BlockParameters.layout : Layout BlockParameters := .record "BlockParameters"
  (.cons (.required "rule" .text) <| .cons (.defaulted "keepBlockedLogs" .bool false) .nil)
  (fun p => (p.rule, p.keepBlockedLogs, ()))
  (fun (rule, keepBlockedLogs, ()) => ⟨rule, keepBlockedLogs⟩)

structure ReplaceParameters where
  destinationField : String
  rule : String
  replaceNewVal : String
deriving DecidableEq, Repr

def ReplaceParameters.layout : Layout ReplaceParameters := .record "ReplaceParameters"
  (.cons (.required "destinationField" .text) <|
    .cons (.required "rule" .text) <|
    .cons (.required "replaceNewVal" .text) .nil)
  (fun p => (p.destinationField, p.rule, p.replaceNewVal, ()))
  (fun (destinationField, rule, replaceNewVal, ()) => ⟨destinationField, rule, replaceNewVal⟩)

/-- What a rule does, as the platform takes it. -/
inductive RuleParameters where
  | parse (parameters : ExtractParameters)
  | block (parameters : BlockParameters)
  | replace (parameters : ReplaceParameters)
  | jsonExtract (parameters : JsonExtractRule)
deriving DecidableEq, Repr

namespace RuleParameters

def parse? : RuleParameters → Option ExtractParameters
  | .parse p => some p
  | _ => none

def block? : RuleParameters → Option BlockParameters
  | .block p => some p
  | _ => none

def replace? : RuleParameters → Option ReplaceParameters
  | .replace p => some p
  | _ => none

def jsonExtract? : RuleParameters → Option JsonExtractRule
  | .jsonExtract p => some p
  | _ => none

def codec : Codec RuleParameters := .union
  [.of "parse" ExtractParameters.layout.codec .parse parse?,
    .of "block" BlockParameters.layout.codec .block block?,
    .of "replace" ReplaceParameters.layout.codec .replace replace?,
    .of "jsonExtract" (JsonExtractRule.layout "JsonExtractParameters").codec .jsonExtract
      jsonExtract?]

end RuleParameters

def RuleAction.parameters : RuleAction → RuleParameters
  | .parse r => .parse ⟨r.destinationField, r.regex⟩
  | .block r => .block ⟨r.regex, r.keepBlockedLogs⟩
  | .replace r => .replace ⟨r.destinationField, r.regex, r.replacement⟩
  | .jsonExtract r => .jsonExtract r

structure RuleBody where
  name : String
  description : String
  enabled : Bool
  sourceField : String
  parameters : RuleParameters
deriving DecidableEq, Repr

def RuleBody.layout : Layout RuleBody := .record "RuleBody"
  (.cons (.required "name" .text) <|
    .cons (.defaulted "description" .text "") <|
    .cons (.defaulted "enabled" .bool false) <|
    .cons (.required "sourceField" .text) <|
    .cons (.required "parameters" RuleParameters.codec) .nil)
  (fun b => (b.name, b.description, b.enabled, b.sourceField, b.parameters, ()))
  (fun (name, description, enabled, sourceField, parameters, ()) =>
    ⟨name, description, enabled, sourceField, parameters⟩)

structure RuleSubgroupBody where
  enabled : Bool
  order : UInt32
  rules : List RuleBody
deriving DecidableEq, Repr

def RuleSubgroupBody.layout : Layout RuleSubgroupBody := .record "RuleSubgroupBody"
  (.cons (.defaulted "enabled" .bool false) <|
    .cons (.required "order" .uint32) <|
    .cons (.defaulted "rules" (.list RuleBody.layout.codec) []) .nil)
  (fun b => (b.enabled, b.order, b.rules, ()))
  (fun (enabled, order, rules, ()) => ⟨enabled, order, rules⟩)

/-- A rule group on the platform, which chooses the order where none is wanted. -/
structure RuleGroupBody where
  name : String
  description : String
  enabled : Bool
  order : Option UInt32
  ruleSubgroups : List RuleSubgroupBody
deriving DecidableEq, Repr

def RuleGroupBody.layout : Layout RuleGroupBody := .record "RuleGroupBody"
  (.cons (.required "name" .text) <|
    .cons (.defaulted "description" .text "") <|
    .cons (.defaulted "enabled" .bool false) <|
    .cons (.optional "order" .uint32) <|
    .cons (.defaulted "ruleSubgroups" (.list RuleSubgroupBody.layout.codec) []) .nil)
  (fun b => (b.name, b.description, b.enabled, b.order, b.ruleSubgroups, ()))
  (fun (name, description, enabled, order, ruleSubgroups, ()) =>
    ⟨name, description, enabled, order, ruleSubgroups⟩)

def Rule.body (r : Rule) : RuleBody :=
  ⟨r.name, r.description.getD "", r.active, r.sourceField, r.action.parameters⟩

/-- A position counted from one as an order; positions beyond the word share the largest. -/
def orderAt (position : Nat) : UInt32 := .ofNat (min position 4294967295)

/-- The subgroup at a position, which is its order unless it gives one. -/
def RuleSubgroup.body (position : Nat) (s : RuleSubgroup) : RuleSubgroupBody :=
  ⟨s.active, s.order.getD (orderAt position), s.rules.map Rule.body⟩

namespace RuleGroupSpec

/-- The subgroups from a position on. -/
def subgroupBodies (group : String) (position : Nat) :
    List RuleSubgroup → Except SpecError (List RuleSubgroupBody)
  | [] => .ok []
  | s :: r =>
    if s.rules.isEmpty then .error (.emptySubgroup position group)
    else (subgroupBodies group (position + 1) r).map (s.body position :: ·)

/-- The entity that the spec asks for. -/
def desiredBody (s : RuleGroupSpec) : Except SpecError RuleGroupBody :=
  (subgroupBodies s.name 1 s.subgroups).map fun subgroups =>
    { name := s.name
      description := s.description.getD ""
      enabled := s.active
      order := s.order
      ruleSubgroups := subgroups }

end RuleGroupSpec

namespace RuleGroupBody

/-- Whether an entity has the wanted body; any order will do where none is wanted. -/
def inSync (desired observed : RuleGroupBody) : Bool :=
  if desired.order.isNone then desired = { observed with order := none } else desired = observed

def observedStatus (e : Entity RuleGroupBody) : IdStatus := ⟨some e.id⟩

end RuleGroupBody

end ResourceSync
