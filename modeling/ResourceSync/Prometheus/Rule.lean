import ResourceSync.Json.Record
import ResourceSync.Object.Metadata

/-! Prometheus rules: groups of recording and alerting rules that other kinds are generated from. -/
namespace ResourceSync

/-- A recording rule where `record` is given, and an alerting rule where `alert` is. -/
structure PrometheusEntry where
  record : Option String
  alert : Option String
  expr : String
  forDuration : Option String
  labels : Option Labels
  annotations : Option Labels
deriving DecidableEq

def PrometheusEntry.layout : Layout PrometheusEntry := .record "PrometheusRuleEntry"
  (.cons (.optional "record" .text) <|
    .cons (.optional "alert" .text) <|
    .cons (.required "expr" .text) <|
    .cons (.optional "for" .text) <|
    .cons (.optional "labels" (.map .text)) <|
    .cons (.optional "annotations" (.map .text)) .nil)
  (fun e => (e.record, e.alert, e.expr, e.forDuration, e.labels, e.annotations, ()))
  (fun (record, alert, expr, forDuration, labels, annotations, ()) =>
    ⟨record, alert, expr, forDuration, labels, annotations⟩)

structure PrometheusGroup where
  name : String
  interval : Option String
  limit : Option UInt64
  rules : List PrometheusEntry
deriving DecidableEq

def PrometheusGroup.layout : Layout PrometheusGroup := .record "PrometheusRuleGroup"
  (.cons (.required "name" .text) <|
    .cons (.optional "interval" .text) <|
    .cons (.optional "limit" .uint64) <|
    .cons (.defaulted "rules" (.list PrometheusEntry.layout.codec) []) .nil)
  (fun g => (g.name, g.interval, g.limit, g.rules, ()))
  (fun (name, interval, limit, rules, ()) => ⟨name, interval, limit, rules⟩)

structure PrometheusSpec where
  groups : List PrometheusGroup
deriving DecidableEq

def PrometheusSpec.layout : Layout PrometheusSpec := .record "PrometheusRuleSpec"
  (.cons (.defaulted "groups" (.list PrometheusGroup.layout.codec) []) .nil)
  (fun s => (s.groups, ())) (fun (groups, ()) => ⟨groups⟩)

structure PrometheusRule where
  metadata : Metadata
  spec : PrometheusSpec
deriving DecidableEq

namespace PrometheusRule

def kindName : String := "PrometheusRule"

def apiVersion : String := "monitoring.coreos.com/v1"

def layout : Layout PrometheusRule := .record kindName
  (.cons (.required "metadata" Metadata.codec) <|
    .cons (.required "spec" PrometheusSpec.layout.codec) .nil)
  (fun r => (r.metadata, r.spec, ())) (fun (metadata, spec, ()) => ⟨metadata, spec⟩)

def codec : Codec PrometheusRule where
  read := layout.codec.read
  encode r :=
    .obj (("apiVersion", .str apiVersion) :: ("kind", .str kindName) :: layout.encodeMembers r)

def name (r : PrometheusRule) : String := r.metadata.anyName

end PrometheusRule

end ResourceSync
