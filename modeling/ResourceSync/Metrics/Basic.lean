import ResourceSync.Duration.Basic
import ResourceSync.SortedMap

/-! What is counted while resources are kept in step, by series of label values. -/
namespace ResourceSync

/-- How a pass ended. -/
inductive Outcome where
  | success
  | error
  | skipped
deriving DecidableEq, Repr

def Outcome.name : Outcome → String
  | success => "success"
  | error => "error"
  | skipped => "skipped"

/-- Calls that change the platform. -/
inductive Operation where
  | create
  | update
  | delete
deriving DecidableEq, Repr

def Operation.name : Operation → String
  | create => "create"
  | update => "update"
  | delete => "delete"

/-- How long things took: for every bound the number of spans within it, and all of them
together. -/
structure Histogram where
  within : List Nat
  sum : Binary64
  count : Nat
deriving DecidableEq

namespace Histogram

/-- The bounds in milliseconds. -/
def bounds : List Nat := [1, 10, 100, 500, 1000, 2000, 5000, 10000, 30000, 60000]

def empty : Histogram := ⟨bounds.map fun _ => 0, .zero, 0⟩

def observe (h : Histogram) (d : Duration) : Histogram where
  within := List.zipWith (fun n bound =>
    if d.nanoseconds ≤ (Duration.ofMillis bound).nanoseconds then n + 1 else n) h.within bounds
  sum := h.sum.add d.seconds64
  count := h.count + 1

end Histogram

/-- The values of a series' labels in the order of the labels' names. -/
abbrev LabelValues := List String

/-- The series of one process. Counters are natural numbers here. The program holds them as doubles,
which count up exactly to `2 ^ 53` and then stay there. -/
structure Metrics where
  /-- Passes by kind and outcome. -/
  reconciliations : SortedMap LabelValues Nat
  /-- Durations of passes by kind. -/
  durations : SortedMap LabelValues Histogram
  /-- Changes of the platform by kind and operation. -/
  operations : SortedMap LabelValues Nat
  /-- Whether a resource is in step, by kind, name, namespace and type. -/
  resources : SortedMap LabelValues Nat
  /-- The type under which a resource stands, by kind, name and namespace. -/
  types : SortedMap LabelValues String
  leader : Bool
deriving DecidableEq

namespace Metrics

def empty : Metrics := ⟨∅, ∅, ∅, ∅, ∅, false⟩

instance : Inhabited Metrics := ⟨empty⟩

/-- One more in a series. -/
def increment (series : SortedMap LabelValues Nat) (key : LabelValues) :
    SortedMap LabelValues Nat :=
  series.insert key ((series.get? key).getD 0 + 1)

/-- The series with one of a key, whose value starts from zero. -/
def touch (series : SortedMap LabelValues Nat) (key : LabelValues) : SortedMap LabelValues Nat :=
  if series.contains key then series else series.insert key 0

def recordReconcile (m : Metrics) (kind outcome : String) (d : Duration) : Metrics :=
  { m with
    reconciliations := increment m.reconciliations [kind, outcome]
    durations := m.durations.insert [kind] (((m.durations.get? [kind]).getD .empty).observe d) }

def recordOperation (m : Metrics) (kind operation : String) : Metrics :=
  { m with operations := increment m.operations [kind, operation] }

/-- A resource is in step under a type; the series of an earlier type goes. -/
def setResource (m : Metrics) (kind inNamespace name type : String) : Metrics :=
  let key := [kind, name, inNamespace]
  let kept :=
    match m.types.get? key with
    | none => m.resources
    | some previous =>
      if previous = type then m.resources else m.resources.erase (key ++ [previous])
  { m with
    types := m.types.insert key type
    resources := kept.insert (key ++ [type]) 1 }

/-- A resource is no longer in step; the series of its last type goes. -/
def removeResource (m : Metrics) (kind inNamespace name : String) : Metrics :=
  let key := [kind, name, inNamespace]
  match m.types.get? key with
  | none => m
  | some previous =>
    { m with types := m.types.erase key, resources := m.resources.erase (key ++ [previous]) }

/-- Asks for the value of a resource under a type. Asking makes the series, if there was none. -/
def resourceValue (m : Metrics) (kind inNamespace name type : String) : Option Nat × Metrics :=
  let key := [kind, name, inNamespace, type]
  let resources := touch m.resources key
  ((resources.get? key).filter (0 < ·), { m with resources := resources })

/-- Asks for the number of passes. Asking makes the series, if there was none. -/
def reconcileCount (m : Metrics) (kind outcome : String) : Nat × Metrics :=
  let series := touch m.reconciliations [kind, outcome]
  ((series.get? [kind, outcome]).getD 0, { m with reconciliations := series })

def setLeader (m : Metrics) (leader : Bool) : Metrics := { m with leader := leader }

end Metrics

end ResourceSync
