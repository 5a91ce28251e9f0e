import ResourceSync.Binary64.Shortest
import ResourceSync.Metrics.Basic

/-! Metrics as text: families by name, series by label values, one line for each number. -/
namespace ResourceSync

/-- A family of series with its lines. -/
structure MetricFamily where
  name : String
  type : String
  help : String
  lines : List String

namespace MetricFamily

/-- A label value between quotes. -/
def escape (s : String) : String :=
  String.ofList (s.toList.flatMap fun c =>
    if c = '\\' then ['\\', '\\'] else if c = '"' then ['\\', '"'] else if c = '\n' then ['\\', 'n']
    else [c])

def label (name value : String) : String := name ++ "=\"" ++ escape value ++ "\""

/-- One line; a series without labels has no braces. -/
def line (name : String) (labels : List (String × String)) (value : String) : String :=
  let inside := ",".intercalate (labels.map fun l => label l.1 l.2)
  name ++ (if labels.isEmpty then "" else "\x7b" ++ inside ++ "\x7d") ++ " " ++ value

/-- The family with its heading; nothing, where it has no series. -/
def text (f : MetricFamily) : List String :=
  if f.lines.isEmpty then []
  else s!"# HELP {f.name} {f.help}" :: s!"# TYPE {f.name} {f.type}" :: f.lines

/-- A family of numbers by label values. -/
def ofCounts (name type help : String) (labels : List String) (series : SortedMap LabelValues Nat) :
    MetricFamily :=
  ⟨name, type, help, series.toList.map fun e => line name (labels.zip e.1) (toString e.2)⟩

end MetricFamily

/-- A bound of the histogram in seconds. -/
def Histogram.boundText (millis : Nat) : String :=
  Duration.fractional (millis / 1000) (millis % 1000) 3

/-- The lines of a histogram under its labels. -/
def Histogram.lines (h : Histogram) (name : String) (labels : List (String × String)) :
    List String :=
  let bucket := fun (bound : String) (n : Nat) =>
    MetricFamily.line (name ++ "_bucket") (labels ++ [("le", bound)]) (toString n)
  List.zipWith (fun bound n => bucket (boundText bound) n) bounds h.within ++
    [bucket "+Inf" h.count, MetricFamily.line (name ++ "_sum") labels h.sum.positional,
      MetricFamily.line (name ++ "_count") labels (toString h.count)]

namespace Metrics

def families (m : Metrics) : List MetricFamily :=
  let durations := "obsync_reconcile_duration_seconds"
  [⟨"obsync_leader", "gauge", "1 when this replica holds the leader lease",
      [MetricFamily.line "obsync_leader" [] (if m.leader then "1" else "0")]⟩,
    ⟨durations, "histogram", "Duration of reconciliations in seconds by kind",
      m.durations.toList.flatMap fun e => e.2.lines durations (["kind"].zip e.1)⟩,
    .ofCounts "obsync_reconciliations_total" "counter"
      "Total number of reconciliations by kind and outcome" ["kind", "outcome"] m.reconciliations,
    .ofCounts "obsync_remote_operations_total" "counter"
      "Total number of successful remote mutations by kind and operation" ["kind", "operation"]
      m.operations,
    .ofCounts "obsync_resource_info" "gauge"
      "Resources currently synchronized with the management API"
      ["kind", "name", "namespace", "type"] m.resources]

/-- All lines of the exposition. -/
def lines (m : Metrics) : List String := m.families.flatMap MetricFamily.text

def text (m : Metrics) : String := String.join (m.lines.map (· ++ "\n"))

end Metrics

end ResourceSync
