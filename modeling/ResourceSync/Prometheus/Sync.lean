import ResourceSync.Cluster.Client
import ResourceSync.Metrics.Basic
import ResourceSync.Prometheus.Conversion

/-! Keeps the objects generated from a Prometheus rule as the rule wants them. -/
namespace ResourceSync

/-- What the synchronization needs of the cluster. -/
structure GeneratedObjects (m : Type → Type) where
  /-- Creates an object in a namespace or takes over the one under its name. -/
  apply : (k : Kind) → String → Resource k → m (Except ApiError Unit)
  /-- The objects of a namespace whose source label has a value. -/
  generatedFrom : (k : Kind) → String → String → m (Except ApiError (List (Resource k)))
  delete : (k : Kind) → String → String → m (Except ApiError Unit)

/-- The objects behind a connection to the API server. -/
def GeneratedObjects.ofConnection {m : Type → Type} [Monad m] (api : ApiConnection m) :
    GeneratedObjects m where
  apply k inNamespace r := (⟨api⟩ : ClusterClient m k).apply inNamespace r
  generatedFrom k inNamespace name :=
    (⟨api⟩ : ClusterClient m k).list inNamespace PrometheusRule.sourceLabel name
  delete k inNamespace name := (⟨api⟩ : ClusterClient m k).delete inNamespace name

/-- Why the objects of a rule are not as they should be. -/
inductive SyncError where
  | noNamespace
  | conversion (e : ConversionError)
  | cluster (f : ApiFailure)
deriving DecidableEq, Repr

namespace SyncError

/-- The failure in words; of a failed request only the circumstances. -/
def text : SyncError → String
  | noNamespace => s!"{PrometheusRule.kindName} has no namespace"
  | conversion e => e.message
  | cluster f => f.text

end SyncError

namespace PrometheusRule
variable {m : Type → Type} [Monad m] {α : Type}

/-- Steps of a synchronization. -/
abbrev SyncStep (m : Type → Type) (α : Type) := ExceptT (Halt SyncError) m α

def request (contexts : List String) (x : m (Except ApiError α)) : SyncStep m α :=
  ExceptT.mk do return (← x).mapError fun e => .refused (.cluster ⟨contexts, e⟩)

def convert (x : Checked ConversionError α) : SyncStep m α :=
  ExceptT.mk (pure (x.during .conversion))

/-- The one set under the rule's name is applied where recording rules are tracked. Where they
are not, the sets that the rule controls are deleted. -/
def syncRecording (api : GeneratedObjects m) (r : PrometheusRule) (inNamespace : String) :
    SyncStep m Unit := do
  if r.tracks trackRecording then
    let set ← convert r.recordingRuleGroupSet
    request [s!"failed to apply RecordingRuleGroupSet {inNamespace}/{r.name}"]
      (api.apply .recordingRuleGroupSet inNamespace set)
  else
    let sets ← request [] (api.generatedFrom .recordingRuleGroupSet inNamespace r.name)
    (sets.filter fun s => r.controls s.metadata).forM fun set =>
      request [] (api.delete .recordingRuleGroupSet inNamespace set.metadata.anyName)

/-- The alerts that are wanted; none, where alerting rules are not tracked. -/
def wantedAlerts (r : PrometheusRule) : Checked ConversionError (List (Resource .alert)) :=
  if r.tracks trackAlerting then r.desiredAlerts else .ok []

/-- The wanted alerts are applied, and the others that the rule controls are deleted. -/
def syncAlerts (api : GeneratedObjects m) (r : PrometheusRule) (inNamespace : String) :
    SyncStep m Unit := do
  let wanted ← convert r.wantedAlerts
  wanted.forM fun alert =>
    request [s!"failed to apply Alert {inNamespace}/{alert.metadata.anyName}"]
      (api.apply .alert inNamespace alert)
  let found ← request [] (api.generatedFrom .alert inNamespace r.name)
  let existing := (found.filter fun a => r.controls a.metadata).map (·.metadata.anyName)
  (staleNames existing (wanted.map (·.metadata.anyName))).forM fun name =>
    request [] (api.delete .alert inNamespace name)

/-- Brings the objects generated from a rule in line with it. -/
def synchronize (api : GeneratedObjects m) (r : PrometheusRule) : m (Checked SyncError Unit) :=
  ExceptT.run do
    let some inNamespace := r.metadata.inNamespace | throw (.refused .noNamespace)
    syncRecording api r inNamespace
    syncAlerts api r inNamespace

/-- The metrics after a synchronization that took some time. -/
def recordSync (metrics : Metrics) (result : Checked SyncError Unit) (elapsed : Duration) :
    Metrics :=
  let outcome := match result with
    | .ok () => Outcome.success
    | .error _ => .error
  metrics.recordReconcile kindName outcome.name elapsed

end PrometheusRule

end ResourceSync
