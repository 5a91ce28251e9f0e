import ResourceSync.Url.Error

/-! Why a spec cannot be expressed as an entity of the platform. -/
namespace ResourceSync

/-- What is wrong with the destination of a webhook. -/
inductive WebhookFault where
  | invalidUrl (url : String) (error : UrlError)
  | notWeb (url : String)
  | emptyServiceKey
  | noAddresses
  | notAnAddress (address : String)
deriving DecidableEq, Repr

def WebhookFault.message : WebhookFault → String
  | .invalidUrl url error => s!"url '{url}' is not a valid URL: {error.message}"
  | .notWeb url => s!"url '{url}' must use http or https"
  | .emptyServiceKey => "serviceKey must not be empty"
  | .noAddresses => "emailAddresses must not be empty"
  | .notAnAddress address => s!"'{address}' is not an email address"

inductive SpecError where
  | thresholdNotFinite
  | emptySubgroup (position : Nat) (group : String)
  | duplicateGroup (name : String)
  | badWebhook (name : String) (fault : WebhookFault)
  | noPermissions (name : String)
  | badQuota (name : String)
deriving DecidableEq, Repr

def SpecError.message : SpecError → String
  | .thresholdNotFinite => "alert threshold must be a finite number"
  | .emptySubgroup position group => s!"rule subgroup {position} of {group} has no rules"
  | .duplicateGroup name => s!"duplicate recording rule group name '{name}'"
  | .badWebhook name fault => s!"invalid webhook configuration for {name}: {fault.message}"
  | .noPermissions name => s!"api key {name} grants no presets or permissions"
  | .badQuota name => s!"daily quota of team {name} must be a non-negative number"

end ResourceSync
