import ResourceSync.Kind.IdStatus
import ResourceSync.Kind.SpecError
import ResourceSync.Remote.Entity
import ResourceSync.Selector.Basic

/-! Sets of groups of recording rules, whose results are stored as series. -/
namespace ResourceSync

/-- Stores the result of an expression as a series. -/
structure RecordingRule where
  record : String
  expr : String
  labels : Labels
deriving DecidableEq

def RecordingRule.layout : Layout RecordingRule := .record "RecordingRule"
  (.cons (.required "record" .text) <|
    .cons (.required "expr" .text) <|
    .cons (.sparseMap "labels" .text) .nil)
  (fun r => (r.record, r.expr, r.labels, ()))
  (fun (record, expr, labels, ()) => ⟨record, expr, labels⟩)

structure RecordingRuleGroup where
  name : String
  intervalSeconds : Option UInt32
  limit : Option UInt64
  rules : List RecordingRule
deriving DecidableEq

def RecordingRuleGroup.layout : Layout RecordingRuleGroup := .record "RecordingRuleGroup"
  (.cons (.required "name" .text) <|
    .cons (.optional "intervalSeconds" .uint32) <|
    .cons (.optional "limit" .uint64) <|
    .cons (.defaulted "rules" (.list RecordingRule.layout.codec) []) .nil)
  (fun g => (g.name, g.intervalSeconds, g.limit, g.rules, ()))
  (fun (name, intervalSeconds, limit, rules, ()) => ⟨name, intervalSeconds, limit, rules⟩)

structure RecordingRuleGroupSetSpec where
  groups : List RecordingRuleGroup
deriving DecidableEq

def RecordingRuleGroupSetSpec.layout : Layout RecordingRuleGroupSetSpec :=
  .record "RecordingRuleGroupSetSpec"
    (.cons (.defaulted "groups" (.list RecordingRuleGroup.layout.codec) []) .nil)
    (fun s => (s.groups, ())) (fun (groups, ()) => ⟨groups⟩)

/-- A recording rule on the platform. -/
structure RecordingRuleBody where
  record : String
  expr : String
  labels : Labels
deriving DecidableEq

def RecordingRuleBody.layout : Layout RecordingRuleBody := .record "RecordingRuleBody"
  (.cons (.required "record" .text) <|
    .cons (.required "expr" .text) <|
    .cons (.defaulted "labels" (.map .text) ∅) .nil)
  (fun b => (b.record, b.expr, b.labels, ()))
  (fun (record, expr, labels, ()) => ⟨record, expr, labels⟩)

/-- A group on the platform, where the limit zero means that there is none. -/
structure RecordingRuleGroupBody where
  name : String
  interval : UInt32
  limit : UInt64
  rules : List RecordingRuleBody
deriving DecidableEq

def RecordingRuleGroupBody.layout : Layout RecordingRuleGroupBody :=
  .record "RecordingRuleGroupBody"
    (.cons (.required "name" .text) <|
      .cons (.required "interval" .uint32) <|
      .cons (.defaulted "limit" .uint64 0) <|
      .cons (.defaulted "rules" (.list RecordingRuleBody.layout.codec) []) .nil)
    (fun b => (b.name, b.interval, b.limit, b.rules, ()))
    (fun (name, interval, limit, rules, ()) => ⟨name, interval, limit, rules⟩)

structure RecordingRuleGroupSetBody where
  groups : List RecordingRuleGroupBody
deriving DecidableEq

def RecordingRuleGroupSetBody.layout : Layout RecordingRuleGroupSetBody :=
  .record "RecordingRuleGroupSetBody"
    (.cons (.defaulted "groups" (.list RecordingRuleGroupBody.layout.codec) []) .nil)
    (fun b => (b.groups, ())) (fun (groups, ()) => ⟨groups⟩)

def RecordingRule.body (r : RecordingRule) : RecordingRuleBody := ⟨r.record, r.expr, r.labels⟩

/-- The interval in seconds at which a group is evaluated unless it gives one. -/
def defaultInterval : UInt32 := 60

def RecordingRuleGroup.body (g : RecordingRuleGroup) : RecordingRuleGroupBody :=
  ⟨g.name, g.intervalSeconds.getD defaultInterval, g.limit.getD 0, g.rules.map RecordingRule.body⟩

/-- The first text that an earlier one equals; `seen` holds the earlier ones. -/
def firstRepeated (seen : List String) : List String → Option String
  | [] => none
  | s :: r => if seen.contains s then some s else firstRepeated (s :: seen) r

namespace RecordingRuleGroupSetSpec

/-- The entity that the spec asks for. -/
def desiredBody (s : RecordingRuleGroupSetSpec) : Except SpecError RecordingRuleGroupSetBody :=
  match firstRepeated [] (s.groups.map (·.name)) with
  | some name => .error (.duplicateGroup name)
  | none => .ok ⟨s.groups.map RecordingRuleGroup.body⟩

end RecordingRuleGroupSetSpec

namespace RecordingRuleGroupSetBody

def inSync (desired observed : RecordingRuleGroupSetBody) : Bool := desired = observed

def observedStatus (e : Entity RecordingRuleGroupSetBody) : IdStatus := ⟨some e.id⟩

end RecordingRuleGroupSetBody

end ResourceSync
