import ResourceSync.Json.Record
import ResourceSync.Kind.SpecError
import ResourceSync.Remote.Entity
import ResourceSync.Selector.Basic
import ResourceSync.Text.Blank
import ResourceSync.Url.Parser

/-! Outbound webhooks: where notifications are sent. -/
namespace ResourceSync

/-- The method of a request to an arbitrary destination. -/
inductive WebhookMethod where
  | get
  | post
  | put
deriving DecidableEq, Repr

namespace WebhookMethod

def name : WebhookMethod → String
  | get => "Get"
  | post => "Post"
  | put => "Put"

def codec : Codec WebhookMethod := .choice [get, post, put] name

end WebhookMethod

structure GenericWebhook where
  url : String
  method : WebhookMethod
  headers : Labels
  payload : Option String
deriving DecidableEq

def GenericWebhook.layout : Layout GenericWebhook := .record "GenericWebhook"
  (.cons (.required "url" .text) <|
    .cons (.defaulted "method" WebhookMethod.codec .post) <|
    .cons (.sparseMap "headers" .text) <|
    .cons (.optional "payload" .text) .nil)
  (fun w => (w.url, w.method, w.headers, w.payload, ()))
  (fun (url, method, headers, payload, ()) => ⟨url, method, headers, payload⟩)

structure SlackWebhook where
  url : String
  channel : Option String
deriving DecidableEq, Repr

def SlackWebhook.layout : Layout SlackWebhook := .record "SlackWebhook"
  (.cons (.required "url" .text) <| .cons (.optional "channel" .text) .nil)
  (fun w => (w.url, w.channel, ())) (fun (url, channel, ()) => ⟨url, channel⟩)

structure PagerDutyWebhook where
  serviceKey : String
deriving DecidableEq, Repr

def PagerDutyWebhook.layout : Layout PagerDutyWebhook := .record "PagerDutyWebhook"
  (.cons (.required "serviceKey" .text) .nil)
  (fun w => (w.serviceKey, ())) (fun (serviceKey, ()) => ⟨serviceKey⟩)

/-- A destination that is known by its URL alone. -/
structure UrlWebhook where
  url : String
deriving DecidableEq, Repr

def UrlWebhook.layout (name : String) : Layout UrlWebhook := .record name
  (.cons (.required "url" .text) .nil) (fun w => (w.url, ())) (fun (url, ()) => ⟨url⟩)

structure EmailGroupWebhook where
  emailAddresses : List String
deriving DecidableEq, Repr

def EmailGroupWebhook.layout : Layout EmailGroupWebhook := .record "EmailGroupWebhook"
  (.cons (.required "emailAddresses" (.list .text)) .nil)
  (fun w => (w.emailAddresses, ())) (fun (emailAddresses, ()) => ⟨emailAddresses⟩)

/-- The destination of a webhook. -/
inductive WebhookType where
  | generic (webhook : GenericWebhook)
  | slack (webhook : SlackWebhook)
  | pagerDuty (webhook : PagerDutyWebhook)
  | microsoftTeams (webhook : UrlWebhook)
  | opsgenie (webhook : UrlWebhook)
  | emailGroup (webhook : EmailGroupWebhook)
deriving DecidableEq

namespace WebhookType

def generic? : WebhookType → Option GenericWebhook
  | .generic w => some w
  | _ => none

def slack? : WebhookType → Option SlackWebhook
  | .slack w => some w
  | _ => none

def pagerDuty? : WebhookType → Option PagerDutyWebhook
  | .pagerDuty w => some w
  | _ => none

def microsoftTeams? : WebhookType → Option UrlWebhook
  | .microsoftTeams w => some w
  | _ => none

def opsgenie? : WebhookType → Option UrlWebhook
  | .opsgenie w => some w
  | _ => none

def emailGroup? : WebhookType → Option EmailGroupWebhook
  | .emailGroup w => some w
  | _ => none

def codec : Codec WebhookType := .union
  [.of "generic" GenericWebhook.layout.codec .generic generic?,
    .of "slack" SlackWebhook.layout.codec .slack slack?,
    .of "pagerDuty" PagerDutyWebhook.layout.codec .pagerDuty pagerDuty?,
    .of "microsoftTeams" (UrlWebhook.layout "MicrosoftTeamsWebhook").codec .microsoftTeams
      microsoftTeams?,
    .of "opsgenie" (UrlWebhook.layout "OpsgenieWebhook").codec .opsgenie opsgenie?,
    .of "emailGroup" EmailGroupWebhook.layout.codec .emailGroup emailGroup?]

def name : WebhookType → String
  | .generic _ => "generic"
  | .slack _ => "slack"
  | .pagerDuty _ => "pagerDuty"
  | .microsoftTeams _ => "microsoftTeams"
  | .opsgenie _ => "opsgenie"
  | .emailGroup _ => "emailGroup"

/-- What is wrong with a URL that notifications are to be sent to. -/
def urlFault? (url : String) : Option WebhookFault :=
  match Url.parse url with
  | .error e => some (.invalidUrl url e)
  | .ok parsed => if parsed.isWeb then none else some (.notWeb url)

def fault? : WebhookType → Option WebhookFault
  | .generic w => urlFault? w.url
  | .slack w => urlFault? w.url
  | .microsoftTeams w => urlFault? w.url
  | .opsgenie w => urlFault? w.url
  | .pagerDuty w => if (Text.trim w.serviceKey.toList).isEmpty then some .emptyServiceKey else none
  | .emailGroup w =>
    if w.emailAddresses.isEmpty then some .noAddresses
    else (w.emailAddresses.find? fun a => !a.toList.contains '@').map .notAnAddress

end WebhookType

structure OutboundWebhookSpec where
  name : String
  type : WebhookType
deriving DecidableEq

def OutboundWebhookSpec.layout : Layout OutboundWebhookSpec := .record "OutboundWebhookSpec"
  (.cons (.required "name" .text) <| .cons (.required "type" WebhookType.codec) .nil)
  (fun s => (s.name, s.type, ())) (fun (name, type, ()) => ⟨name, type⟩)

structure OutboundWebhookStatus where
  id : Option String
  /-- The number by which alerts refer to the webhook. -/
  externalId : Option UInt64
  createdAt : Option String
deriving DecidableEq, Repr

def OutboundWebhookStatus.layout : Layout OutboundWebhookStatus := .record "OutboundWebhookStatus"
  (.cons (.optional "id" .text) <|
    .cons (.optional "externalId" .uint64) <|
    .cons (.optional "createdAt" .text) .nil)
  (fun s => (s.id, s.externalId, s.createdAt, ()))
  (fun (id, externalId, createdAt, ()) => ⟨id, externalId, createdAt⟩)

/-- A webhook on the platform. -/
structure OutboundWebhookBody where
  name : String
  type : String
  config : WebhookType
deriving DecidableEq

def OutboundWebhookBody.layout : Layout OutboundWebhookBody := .record "OutboundWebhookBody"
  (.cons (.required "name" .text) <|
    .cons (.required "type" .text) <|
    .cons (.required "config" WebhookType.codec) .nil)
  (fun b => (b.name, b.type, b.config, ()))
  (fun (name, type, config, ()) => ⟨name, type, config⟩)

namespace OutboundWebhookSpec

/-- The entity that the spec asks for. -/
def desiredBody (s : OutboundWebhookSpec) : Except SpecError OutboundWebhookBody :=
  match s.type.fault? with
  | some fault => .error (.badWebhook s.name fault)
  | none => .ok ⟨s.name, s.type.name, s.type⟩

end OutboundWebhookSpec

namespace OutboundWebhookBody

def inSync (desired observed : OutboundWebhookBody) : Bool := desired = observed

def observedStatus (e : Entity OutboundWebhookBody) : OutboundWebhookStatus :=
  ⟨some e.id, e.externalId, e.createdAt⟩

end OutboundWebhookBody

end ResourceSync
