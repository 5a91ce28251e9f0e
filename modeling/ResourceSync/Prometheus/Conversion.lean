import ResourceSync.Duration.Parser
import ResourceSync.Object.Resource
import ResourceSync.Prometheus.Naming
import ResourceSync.Prometheus.Rule

/-! What a Prometheus rule is turned into: a set of recording rule groups, and alerts. -/
namespace ResourceSync

/-- Why a Prometheus rule cannot be converted. -/
inductive ConversionError where
  | invalidInterval (group : String) (cause : DurationError)
  | intervalTooLong (group : String)
  | invalidFor (alert : String) (cause : DurationError)
deriving DecidableEq, Repr

def ConversionError.message : ConversionError → String
  | .invalidInterval group cause => s!"group {group} has an invalid interval: {cause.message}"
  | .intervalTooLong group =>
    s!"interval of group {group} is too long: number too large to fit in target type"
  | .invalidFor alert cause => s!"alerting rule {alert} has an invalid 'for': {cause.message}"

namespace PrometheusRule

/-- The labels by which users ask for the conversion of recording and of alerting rules. -/
def trackRecording : String := "obsync.io/track-recording-rules"

def trackAlerting : String := "obsync.io/track-alerting-rules"

/-- The label that names the rule an object was generated from. -/
def sourceLabel : String := "obsync.io/prometheus-rule"

def managedByLabel : String := "app.kubernetes.io/managed-by"

def partOfLabel : String := "app.kubernetes.io/part-of"

def severityLabel : String := "severity"

/-- How long an alert's condition holds unless the rule says so. -/
def defaultFor : String := "1m"

/-- Whether a tracking label asks for a conversion. -/
def tracks (r : PrometheusRule) (label : String) : Bool :=
  r.metadata.labelMap.get? label == some "true"

/-- The reference that makes the rule the controller of an object. -/
def ownerReference? (r : PrometheusRule) : Option OwnerReference :=
  match r.metadata.name, r.metadata.uid with
  | some name, some uid => some ⟨apiVersion, none, some true, kindName, name, uid⟩
  | _, _ => none

/-- The labels of generated objects: those of the rule without the tracking labels, and three
more. -/
def generatedLabels (r : PrometheusRule) : Labels :=
  (((r.metadata.labelMap.filter fun k _ => k ≠ trackAlerting && k ≠ trackRecording).insert
    managedByLabel kindName).insert partOfLabel "obsync").insert sourceLabel r.name

def generatedMetadata (r : PrometheusRule) (name : String) : Metadata :=
  { Metadata.empty with
    name := some name
    inNamespace := r.metadata.inNamespace
    labels := some r.generatedLabels
    ownerReferences := r.ownerReference?.map fun o => [o] }

/-- Whether an object belongs to the rule. -/
def controls (r : PrometheusRule) (m : Metadata) : Bool :=
  r.metadata.uid.any fun uid =>
    (m.ownerReferences.getD []).any fun o => o.controller = some true && o.uid = uid

end PrometheusRule

namespace PrometheusEntry

def recordingRule? (e : PrometheusEntry) : Option RecordingRule :=
  e.record.map fun record => ⟨record, e.expr, e.labels.getD ∅⟩

/-- The priority that the severity of an alerting rule amounts to. -/
def priorityOf (labels : Option Labels) : AlertPriority :=
  match (labels.bind (·.get? PrometheusRule.severityLabel)).map String.toLower with
  | some "critical" => .p1
  | some "error" => .p2
  | some "warning" => .p3
  | some "info" => .p4
  | _ => .p5

def description? (e : PrometheusEntry) : Option String :=
  e.annotations.bind fun a => (a.get? "description").or (a.get? "summary")

/-- The spec of the alert that an alerting rule of this name becomes. -/
def alertSpec (e : PrometheusEntry) (alert : String) : Checked ConversionError AlertSpec := do
  let duration ←
    (Duration.parse (e.forDuration.getD PrometheusRule.defaultFor)).during (.invalidFor alert)
  let window ← duration.timeWindow
  return {
    name := alert
    description := e.description?
    enabled := true
    priority := priorityOf e.labels
    entityLabels := (e.labels.getD ∅).filter fun k _ => k ≠ PrometheusRule.severityLabel
    query := e.expr
    condition := ⟨.moreThan, .zero, window⟩
    notificationGroup := none }

end PrometheusEntry

namespace PrometheusGroup

def recordingRules (g : PrometheusGroup) : List RecordingRule :=
  g.rules.filterMap PrometheusEntry.recordingRule?

/-- The interval in whole seconds, what is below a second being dropped. -/
def intervalSeconds (g : PrometheusGroup) : Checked ConversionError (Option UInt32) :=
  match g.interval with
  | none => .ok none
  | some interval => do
    let duration ← (Duration.parse interval).during (.invalidInterval g.name)
    if duration.wholeSeconds < 4294967296 then return some (.ofNat duration.wholeSeconds)
    else throw (.refused (.intervalTooLong g.name))

def recordingGroup (g : PrometheusGroup) : Checked ConversionError RecordingRuleGroup := do
  let interval ← g.intervalSeconds
  return ⟨g.name, interval, g.limit, g.recordingRules⟩

end PrometheusGroup

namespace PrometheusRule

/-- The set of the groups with recording rules. -/
def recordingRuleGroupSet (r : PrometheusRule) :
    Checked ConversionError (Resource .recordingRuleGroupSet) := do
  let recording := r.spec.groups.filter fun g => !g.recordingRules.isEmpty
  let groups ← recording.mapM PrometheusGroup.recordingGroup
  let spec : RecordingRuleGroupSetSpec := ⟨groups⟩
  return { metadata := r.generatedMetadata r.name, spec := spec, status := none }

/-- The alerting rules of all groups with their names. -/
def alertingRules (r : PrometheusRule) : List (String × PrometheusEntry) :=
  r.spec.groups.flatMap fun g => g.rules.filterMap fun e => e.alert.map fun alert => (alert, e)

/-- The alerts for alerting rules that stand at positions from `index` on. -/
def alertsFrom (r : PrometheusRule) (index : Nat) :
    List (String × PrometheusEntry) → Checked ConversionError (List (Resource .alert))
  | [] => .ok []
  | (alert, e) :: rest => do
    let spec ← e.alertSpec alert
    let alerts ← r.alertsFrom (index + 1) rest
    return ⟨r.generatedMetadata (alertName r.name alert index), spec, none⟩ :: alerts

/-- The alerts that the rule asks for, counted across its groups. -/
def desiredAlerts (r : PrometheusRule) : Checked ConversionError (List (Resource .alert)) :=
  r.alertsFrom 0 r.alertingRules

/-- The existing names that are not desired, in their order. -/
def staleNames (existing desired : List String) : List String :=
  existing.filter fun name => !desired.contains name

end PrometheusRule

end ResourceSync
