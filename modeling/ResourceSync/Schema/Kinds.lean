import ResourceSync.Kind.Basic
import ResourceSync.Schema.Basic

/-! The schemas of the kinds. -/
namespace ResourceSync

namespace Schema
open Property

def emptyList : Json := .arr []

def alertCondition : Schema := .record (some "Threshold condition of an alert.")
  [((defaulted "type" (.str "MoreThan")).told "Comparison direction.",
      .choice "Comparison applied between the query result and the threshold."
        ["MoreThan", "LessThan"]),
    ((required "threshold").told "Threshold the query result is compared against.", .double),
    ((required "timeWindow").told "Evaluation window, e.g. `5m` or `1h`.",
      .matching "^[0-9]+(s|m|h|d)$")]

def notificationGroup : Schema :=
  .record (some "Who is notified when the alert fires, and how notifications are grouped.")
    [((defaulted "groupByFields" emptyList).told "Log fields used to group notifications.",
        .list .text),
      ((defaulted "recipients" emptyList).told "Email recipients.", .list .text)]

def alert : Schema :=
  .record (some "`Alert` declares an alert definition on the observability platform.")
    [((required "name").told "Display name of the alert.", .text),
      (optional "description", .text),
      ((defaulted "enabled" (.bool true)).told "Whether the alert is evaluated.", .boolean),
      (defaulted "priority" (.str "P5"),
        .choice "Alert priority, P1 being the most urgent." ["P1", "P2", "P3", "P4", "P5"]),
      ((sparse "entityLabels").told "Labels attached to the alert entity on the platform.",
        .map .text),
      ((required "query").told "Query whose result is evaluated.", .text),
      (required "condition", alertCondition),
      (optional "notificationGroup", notificationGroup)]

def ruleAction : Schema :=
  .union "What a parsing rule does. Exactly one action per rule."
    [("parse", .record
        (some "Extract a value with a named-group regex into a destination field.")
        [(required "destinationField", .text), (required "regex", .text)]),
      ("block", .record (some "Drop logs matching a regex.")
        [(required "regex", .text),
          ((defaulted "keepBlockedLogs" (.bool false)).told
            "Keep blocked logs in archive storage.", .boolean)]),
      ("replace", .record (some "Replace regex matches with a fixed string.")
        [(required "destinationField", .text), (required "regex", .text),
          (required "replacement", .text)]),
      ("jsonExtract", .record (some "Lift a key out of a JSON payload.")
        [(required "destinationField", .text), (required "jsonKey", .text)])]

def parsingRule : Schema := .record (some "A single parsing rule.")
  [(required "name", .text),
    (optional "description", .text),
    (defaulted "active" (.bool true), .boolean),
    ((defaulted "sourceField" (.str "text")).told "Log field the rule reads from.", .text),
    (required "action", ruleAction)]

def ruleSubgroup : Schema :=
  .record (some "Ordered set of rules evaluated as one unit; the first matching rule wins.")
    [(defaulted "active" (.bool true), .boolean),
      (optional "order", .whole 32),
      (required "rules", .list parsingRule)]

def ruleGroup : Schema := .record (some "`RuleGroup` declares a log parsing rule group.")
  [(required "name", .text),
    (optional "description", .text),
    (defaulted "active" (.bool true), .boolean),
    ((optional "order").told "Position of this group among all rule groups.", .whole 32),
    (defaulted "subgroups" emptyList, .list ruleSubgroup)]

def recordingRule : Schema :=
  .record (some "A recording rule: evaluate `expr` and store the result as series `record`.")
    [(required "record", .text), (required "expr", .text), (sparse "labels", .map .text)]

def recordingRuleGroup : Schema :=
  .record (some "A group of recording rules evaluated together.")
    [(required "name", .text),
      ((optional "intervalSeconds").told "Evaluation interval in seconds (platform default 60).",
        .whole 32),
      ((optional "limit").told "Limit on the number of series a rule may produce.", .whole 64),
      (defaulted "rules" emptyList, .list recordingRule)]

def recordingRuleGroupSet : Schema :=
  .record (some "`RecordingRuleGroupSet` declares a set of recording rule groups.")
    [(defaulted "groups" emptyList, .list recordingRuleGroup)]

def genericWebhook : Schema := .record (some "Arbitrary HTTP endpoint.")
  [(required "url", .text),
    (defaulted "method" (.str "Post"),
      .choice "HTTP method used by a generic webhook." ["Get", "Post", "Put"]),
    (sparse "headers", .map .text),
    ((optional "payload").told "Custom payload template.", .text)]

def webhookType : Schema :=
  .union "Destination type of an outbound webhook. Exactly one variant is set."
    [("generic", genericWebhook),
      ("slack", .record (some "Slack incoming webhook.")
        [(required "url", .text), (optional "channel", .text)]),
      ("pagerDuty", .record (some "PagerDuty Events API integration.")
        [(required "serviceKey", .text)]),
      ("microsoftTeams", .record (some "Microsoft Teams incoming webhook.")
        [(required "url", .text)]),
      ("opsgenie", .record (some "Opsgenie alert API integration.") [(required "url", .text)]),
      ("emailGroup", .record (some "Plain email distribution.")
        [(required "emailAddresses", .list .text)])]

def outboundWebhook : Schema :=
  .record (some "`OutboundWebhook` declares a notification destination.")
    [(required "name", .text), (required "type", webhookType)]

def apiKey : Schema :=
  .record (some ("`ApiKey` declares a platform API key.\n\n" ++
      "The key value returned at creation time is never stored in the cluster."))
    [(required "name", .text),
      (required "owner", .union "Owner of an API key." [("teamId", .text), ("userId", .text)]),
      ((defaulted "presets" emptyList).told "Permission presets, e.g. `Alerts` or `Logs`.",
        .list .text),
      ((defaulted "permissions" emptyList).told
        "Individual permissions on top of the presets.", .list .text),
      (defaulted "active" (.bool true), .boolean)]

def team : Schema := .record (some "`Team` declares a platform team.")
  [(required "name", .text),
    (optional "description", .text),
    ((defaulted "admins" emptyList).told "Email addresses of the team administrators.",
      .list .text),
    ((optional "dailyQuotaUnits").told "Daily ingestion quota in platform units.", .double)]

end Schema

namespace Kind
open Property

def specSchema : Kind → Schema
  | alert => .alert
  | ruleGroup => .ruleGroup
  | recordingRuleGroupSet => .recordingRuleGroupSet
  | outboundWebhook => .outboundWebhook
  | apiKey => .apiKey
  | team => .team

/-- The properties that the status of a kind remembers of the entity. -/
def statusProperties : Kind → List (Property × Schema)
  | alert =>
    [((optional "id").told "Remote identifier.", .text), (optional "createdAt", .text),
      (optional "updatedAt", .text)]
  | outboundWebhook =>
    [(optional "id", .text),
      ((optional "externalId").told
        "Numeric identifier the platform uses when alerts reference this webhook.", .whole 64),
      (optional "createdAt", .text)]
  | _ => [(optional "id", .text)]

def article : Kind → String
  | alert | outboundWebhook | apiKey => "an"
  | _ => "a"

def statusSchema (k : Kind) : Schema :=
  .record (some ("Observed remote state of " ++ k.article ++ " `" ++ k.name ++ "`."))
    k.statusProperties

end Kind

end ResourceSync
