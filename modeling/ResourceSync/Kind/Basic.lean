import ResourceSync.Kind.Alert
import ResourceSync.Kind.ApiKey
import ResourceSync.Kind.OutboundWebhook
import ResourceSync.Kind.RecordingRuleGroupSet
import ResourceSync.Kind.RuleGroup
import ResourceSync.Kind.Team

/-! The kinds of resources that are kept in step with the platform, and what differs between
them. -/
namespace ResourceSync

inductive Kind where
  | alert
  | ruleGroup
  | recordingRuleGroupSet
  | outboundWebhook
  | apiKey
  | team
deriving DecidableEq, Repr

namespace Kind

def all : List Kind := [alert, ruleGroup, recordingRuleGroupSet, outboundWebhook, apiKey, team]

def name : Kind → String
  | alert => "Alert"
  | ruleGroup => "RuleGroup"
  | recordingRuleGroupSet => "RecordingRuleGroupSet"
  | outboundWebhook => "OutboundWebhook"
  | apiKey => "ApiKey"
  | team => "Team"

def ofName? (s : String) : Option Kind := all.find? fun k => k.name = s

/-- The name of a kind in resource paths. -/
def plural : Kind → String
  | alert => "alerts"
  | ruleGroup => "rulegroups"
  | recordingRuleGroupSet => "recordingrulegroupsets"
  | outboundWebhook => "outboundwebhooks"
  | apiKey => "apikeys"
  | team => "teams"

/-- The finalizer that stands while an entity of the platform may still exist. -/
def finalizer : Kind → String
  | alert => "alert.obsync.io/finalizer"
  | ruleGroup => "rulegroup.obsync.io/finalizer"
  | recordingRuleGroupSet => "recordingrulegroupset.obsync.io/finalizer"
  | outboundWebhook => "outboundwebhook.obsync.io/finalizer"
  | apiKey => "apikey.obsync.io/finalizer"
  | team => "team.obsync.io/finalizer"

/-- The collection of the platform's API. -/
def collection : Kind → String
  | alert => "/v1/alerts"
  | ruleGroup => "/v1/rule-groups"
  | recordingRuleGroupSet => "/v1/recording-rule-group-sets"
  | outboundWebhook => "/v1/outbound-webhooks"
  | apiKey => "/v1/api-keys"
  | team => "/v1/teams"

/-- Whether resources in step are looked at again after a while. Webhooks are also edited by
hand. -/
def isPolled : Kind → Bool
  | outboundWebhook => true
  | _ => false

/-- What users ask for. -/
def Spec : Kind → Type
  | alert => AlertSpec
  | ruleGroup => RuleGroupSpec
  | recordingRuleGroupSet => RecordingRuleGroupSetSpec
  | outboundWebhook => OutboundWebhookSpec
  | apiKey => ApiKeySpec
  | team => TeamSpec

/-- What is remembered of the entity. -/
def Status : Kind → Type
  | alert => AlertStatus
  | outboundWebhook => OutboundWebhookStatus
  | _ => IdStatus

/-- What the platform holds. -/
def Body : Kind → Type
  | alert => AlertBody
  | ruleGroup => RuleGroupBody
  | recordingRuleGroupSet => RecordingRuleGroupSetBody
  | outboundWebhook => OutboundWebhookBody
  | apiKey => ApiKeyBody
  | team => TeamBody

instance : (k : Kind) → DecidableEq k.Spec
  | alert => inferInstanceAs (DecidableEq AlertSpec)
  | ruleGroup => inferInstanceAs (DecidableEq RuleGroupSpec)
  | recordingRuleGroupSet => inferInstanceAs (DecidableEq RecordingRuleGroupSetSpec)
  | outboundWebhook => inferInstanceAs (DecidableEq OutboundWebhookSpec)
  | apiKey => inferInstanceAs (DecidableEq ApiKeySpec)
  | team => inferInstanceAs (DecidableEq TeamSpec)

instance : (k : Kind) → DecidableEq k.Status
  | alert => inferInstanceAs (DecidableEq AlertStatus)
  | outboundWebhook => inferInstanceAs (DecidableEq OutboundWebhookStatus)
  | ruleGroup | recordingRuleGroupSet | apiKey | team => inferInstanceAs (DecidableEq IdStatus)

instance : (k : Kind) → DecidableEq k.Body
  | alert => inferInstanceAs (DecidableEq AlertBody)
  | ruleGroup => inferInstanceAs (DecidableEq RuleGroupBody)
  | recordingRuleGroupSet => inferInstanceAs (DecidableEq RecordingRuleGroupSetBody)
  | outboundWebhook => inferInstanceAs (DecidableEq OutboundWebhookBody)
  | apiKey => inferInstanceAs (DecidableEq ApiKeyBody)
  | team => inferInstanceAs (DecidableEq TeamBody)

def specLayout : (k : Kind) → Layout k.Spec
  | alert => AlertSpec.layout
  | ruleGroup => RuleGroupSpec.layout
  | recordingRuleGroupSet => RecordingRuleGroupSetSpec.layout
  | outboundWebhook => OutboundWebhookSpec.layout
  | apiKey => ApiKeySpec.layout
  | team => TeamSpec.layout

def statusLayout : (k : Kind) → Layout k.Status
  | alert => AlertStatus.layout
  | ruleGroup => IdStatus.layout "RuleGroupStatus"
  | recordingRuleGroupSet => IdStatus.layout "RecordingRuleGroupSetStatus"
  | outboundWebhook => OutboundWebhookStatus.layout
  | apiKey => IdStatus.layout "ApiKeyStatus"
  | team => IdStatus.layout "TeamStatus"

def bodyLayout : (k : Kind) → Layout k.Body
  | alert => AlertBody.layout
  | ruleGroup => RuleGroupBody.layout
  | recordingRuleGroupSet => RecordingRuleGroupSetBody.layout
  | outboundWebhook => OutboundWebhookBody.layout
  | apiKey => ApiKeyBody.layout
  | team => TeamBody.layout

def entityCodec (k : Kind) : Codec (Entity k.Body) := Entity.codec k.bodyLayout

/-- The entity that a spec asks for. -/
def desiredBody : (k : Kind) → k.Spec → Except SpecError k.Body
  | alert => AlertSpec.desiredBody
  | ruleGroup => RuleGroupSpec.desiredBody
  | recordingRuleGroupSet => RecordingRuleGroupSetSpec.desiredBody
  | outboundWebhook => OutboundWebhookSpec.desiredBody
  | apiKey => ApiKeySpec.desiredBody
  | team => TeamSpec.desiredBody

/-- Whether an observed body is as good as the desired one. -/
def inSync : (k : Kind) → (desired observed : k.Body) → Bool
  | alert => AlertBody.inSync
  | ruleGroup => RuleGroupBody.inSync
  | recordingRuleGroupSet => RecordingRuleGroupSetBody.inSync
  | outboundWebhook => OutboundWebhookBody.inSync
  | apiKey => ApiKeyBody.inSync
  | team => TeamBody.inSync

/-- What is remembered of an entity once it was seen. -/
def observedStatus : (k : Kind) → Entity k.Body → k.Status
  | alert => AlertBody.observedStatus
  | ruleGroup => RuleGroupBody.observedStatus
  | recordingRuleGroupSet => RecordingRuleGroupSetBody.observedStatus
  | outboundWebhook => OutboundWebhookBody.observedStatus
  | apiKey => ApiKeyBody.observedStatus
  | team => TeamBody.observedStatus

/-- The identifier that a status holds; the empty text counts as none. -/
def recordedId : (k : Kind) → k.Status → Option String
  | alert => fun s : AlertStatus => nonempty s.id
  | outboundWebhook => fun s : OutboundWebhookStatus => nonempty s.id
  | ruleGroup | recordingRuleGroupSet | apiKey | team => fun s : IdStatus => nonempty s.id
where
  nonempty (id : Option String) : Option String := id.filter fun s => !s.isEmpty

/-- The status that holds nothing but an identifier. -/
def statusWithId : (k : Kind) → String → k.Status
  | alert => fun id => (⟨some id, none, none⟩ : AlertStatus)
  | outboundWebhook => fun id => (⟨some id, none, none⟩ : OutboundWebhookStatus)
  | ruleGroup | recordingRuleGroupSet | apiKey | team => fun id => (⟨some id⟩ : IdStatus)

/-- The class of a resource within its kind, where the kind has any. -/
def typeLabel : (k : Kind) → k.Spec → String
  | alert => fun s : AlertSpec => s.priority.name
  | outboundWebhook => fun s : OutboundWebhookSpec => s.type.name
  | _ => fun _ => ""

end Kind

end ResourceSync
