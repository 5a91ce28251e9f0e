import ResourceSync.Json.Record
import ResourceSync.Kind.SpecError
import ResourceSync.Remote.Entity
import ResourceSync.Selector.Basic

/-! Alerts: a query with a threshold, and whom to notify when it is crossed. -/
namespace ResourceSync

/-- How urgent an alert is, the first being the most urgent. -/
inductive AlertPriority where
  | p1
  | p2
  | p3
  | p4
  | p5
deriving DecidableEq, Repr

namespace AlertPriority

def all : List AlertPriority := [p1, p2, p3, p4, p5]

def name : AlertPriority → String
  | p1 => "P1"
  | p2 => "P2"
  | p3 => "P3"
  | p4 => "P4"
  | p5 => "P5"

def codec : Codec AlertPriority := .choice all name

end AlertPriority

/-- On which side of the threshold the result of a query fires the alert. -/
inductive ThresholdSide where
  | moreThan
  | lessThan
deriving DecidableEq, Repr

namespace ThresholdSide

def name : ThresholdSide → String
  | moreThan => "MoreThan"
  | lessThan => "LessThan"

/-- The name on the platform. -/
def remoteName : ThresholdSide → String
  | moreThan => "MORE_THAN"
  | lessThan => "LESS_THAN"

def codec : Codec ThresholdSide := .choice [moreThan, lessThan] name

end ThresholdSide

structure AlertCondition where
  side : ThresholdSide
  threshold : Binary64
  timeWindow : String
deriving DecidableEq

def AlertCondition.layout : Layout AlertCondition := .record "AlertCondition"
  (.cons (.defaulted "type" ThresholdSide.codec .moreThan) <|
    .cons (.required "threshold" .binary64) <|
    .cons (.required "timeWindow" .text) .nil)
  (fun c => (c.side, c.threshold, c.timeWindow, ()))
  (fun (side, threshold, timeWindow, ()) => ⟨side, threshold, timeWindow⟩)

/-- Who is notified, and by which fields notifications are grouped. -/
structure NotificationGroup where
  groupByFields : List String
  recipients : List String
deriving DecidableEq, Repr

/-- The layout of a notification group, which is called differently in a spec and in a body. -/
def NotificationGroup.layout (name : String) : Layout NotificationGroup := .record name
  (.cons (.defaulted "groupByFields" (.list .text) []) <|
    .cons (.defaulted "recipients" (.list .text) []) .nil)
  (fun g => (g.groupByFields, g.recipients, ()))
  (fun (groupByFields, recipients, ()) => ⟨groupByFields, recipients⟩)

structure AlertSpec where
  name : String
  description : Option String
  enabled : Bool
  priority : AlertPriority
  entityLabels : Labels
  query : String
  condition : AlertCondition
  notificationGroup : Option NotificationGroup
deriving DecidableEq

def AlertSpec.layout : Layout AlertSpec := .record "AlertSpec"
  (.cons (.required "name" .text) <|
    .cons (.optional "description" .text) <|
    .cons (.defaulted "enabled" .bool true) <|
    .cons (.defaulted "priority" AlertPriority.codec .p5) <|
    .cons (.sparseMap "entityLabels" .text) <|
    .cons (.required "query" .text) <|
    .cons (.required "condition" AlertCondition.layout.codec) <|
    .cons (.optional "notificationGroup" (NotificationGroup.layout "NotificationGroup").codec) .nil)
  (fun s => (s.name, s.description, s.enabled, s.priority, s.entityLabels, s.query, s.condition,
    s.notificationGroup, ()))
  (fun (name, description, enabled, priority, entityLabels, query, condition, group, ()) =>
    ⟨name, description, enabled, priority, entityLabels, query, condition, group⟩)

structure AlertStatus where
  id : Option String
  createdAt : Option String
  updatedAt : Option String
deriving DecidableEq, Repr

def AlertStatus.layout : Layout AlertStatus := .record "AlertStatus"
  (.cons (.optional "id" .text) <|
    .cons (.optional "createdAt" .text) <|
    .cons (.optional "updatedAt" .text) .nil)
  (fun s => (s.id, s.createdAt, s.updatedAt, ()))
  (fun (id, createdAt, updatedAt, ()) => ⟨id, createdAt, updatedAt⟩)

/-- The condition of an alert on the platform. -/
structure ConditionBody where
  side : String
  threshold : Binary64
  timeWindow : String
deriving DecidableEq

def ConditionBody.layout : Layout ConditionBody := .record "ConditionBody"
  (.cons (.required "type" .text) <|
    .cons (.required "threshold" .binary64) <|
    .cons (.required "timeWindow" .text) .nil)
  (fun c => (c.side, c.threshold, c.timeWindow, ()))
  (fun (side, threshold, timeWindow, ()) => ⟨side, threshold, timeWindow⟩)

/-- An alert on the platform. -/
structure AlertBody where
  name : String
  description : String
  enabled : Bool
  priority : String
  entityLabels : Labels
  query : String
  condition : ConditionBody
  notificationGroup : Option NotificationGroup
deriving DecidableEq

def AlertBody.layout : Layout AlertBody := .record "AlertBody"
  (.cons (.required "name" .text) <|
    .cons (.defaulted "description" .text "") <|
    .cons (.defaulted "enabled" .bool false) <|
    .cons (.required "priority" .text) <|
    .cons (.defaulted "entityLabels" (.map .text) ∅) <|
    .cons (.required "query" .text) <|
    .cons (.required "condition" ConditionBody.layout.codec) <|
    .cons (.optional "notificationGroup" (NotificationGroup.layout "NotificationGroupBody").codec)
      .nil)
  (fun b => (b.name, b.description, b.enabled, b.priority, b.entityLabels, b.query, b.condition,
    b.notificationGroup, ()))
  (fun (name, description, enabled, priority, entityLabels, query, condition, group, ()) =>
    ⟨name, description, enabled, priority, entityLabels, query, condition, group⟩)

namespace AlertSpec

/-- The entity that the spec asks for. -/
def desiredBody (s : AlertSpec) : Except SpecError AlertBody :=
  if s.condition.threshold.isFinite then
    .ok
      { name := s.name
        description := s.description.getD ""
        enabled := s.enabled
        priority := s.priority.name
        entityLabels := s.entityLabels
        query := s.query
        condition := ⟨s.condition.side.remoteName, s.condition.threshold, s.condition.timeWindow⟩
        notificationGroup := s.notificationGroup }
  else .error .thresholdNotFinite

end AlertSpec

namespace AlertBody

/-- Whether an entity has the wanted body: all fields agree, the thresholds as numbers. -/
def inSync (desired observed : AlertBody) : Bool :=
  desired.condition.threshold.equals observed.condition.threshold &&
    { desired with
      condition := { desired.condition with threshold := observed.condition.threshold } } = observed

def observedStatus (e : Entity AlertBody) : AlertStatus := ⟨some e.id, e.createdAt, e.updatedAt⟩

end AlertBody

end ResourceSync
