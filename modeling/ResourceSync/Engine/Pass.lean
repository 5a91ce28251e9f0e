import ResourceSync.Engine.Entity
import ResourceSync.Engine.Finalizer

/-! A pass: an object is loaded, and what it lacks is done. -/
namespace ResourceSync
variable {k : Kind}
open World

/-- What is due for an object. -/
inductive Lifecycle where
  | pendingCreation
  | pendingDeletion
  | outOfScope
  | active
deriving DecidableEq, Repr

def Lifecycle.name : Lifecycle → String
  | pendingCreation => "PendingCreation"
  | pendingDeletion => "PendingDeletion"
  | outOfScope => "OutOfScope"
  | active => "Active"

/-- When the next pass on an object is due. -/
inductive NextPass where
  | onChange
  | after (d : Duration)
deriving DecidableEq, Repr

/-- Keeps the resources of a kind that a selector picks in step with the platform. -/
structure Engine (k : Kind) where
  selector : Selector
  /-- How long to wait after a failure. -/
  errorRequeue : Duration
  /-- How often resources that others may edit are looked at again. -/
  syncInterval : Duration

namespace Engine

def inScope (g : Engine k) (r : Resource k) : Bool := g.selector.accepts r.metadata.labelMap

/-- What is due depends on the recorded identifier, the deletion mark and the labels alone. -/
def lifecycle (g : Engine k) (r : Resource k) : Lifecycle :=
  if r.remoteId.isNone then
    if g.inScope r then .pendingCreation
    else if r.metadata.isDeleting then .pendingDeletion
    else .outOfScope
  else if r.metadata.isDeleting then .pendingDeletion
  else if g.inScope r then .active
  else .outOfScope

/-- Whether an object is the engine's business: in scope, or with something left to clean up. -/
def admits (g : Engine k) (r : Resource k) : Bool :=
  g.inScope r || r.remoteId.isSome || r.hasFinalizer k.finalizer

def successRequeue (g : Engine k) : Option Duration :=
  if k.isPolled then some g.syncInterval else none

def pendingCreation (r : Resource k) : Run k NextPass := do
  let place := s!"{k.name} {r.key.text}"
  during s!"failed to create {place}" r.createEntity
  match ← load r.key with
  | none => throw (Failure.ofMessage s!"{place} disappeared after creation")
  | some created =>
    during s!"failed to add finalizer to {place}" (ensureFinalizer created k.finalizer)
    let id := created.remoteId.getD ""
    publish .normal .created s!"Created remote entity {id}"
    return .onChange

def pendingDeletion (r : Resource k) : Run k NextPass := do
  let place := s!"{k.name} {r.key.text}"
  during s!"failed to delete {place}" r.deleteEntity
  during s!"failed to remove finalizer from {place}" (removeFinalizer r k.finalizer)
  publish .normal .deleted "Deleted remote entity"
  return .onChange

def outOfScope (r : Resource k) : Run k NextPass := do
  if r.remoteId.isSome then
    during s!"failed to tear down out-of-scope {k.name} {r.key.text}" r.deleteEntity
    publish .normal .outOfScope "Labels no longer match the selector, remote entity deleted"
  return .onChange

def active (g : Engine k) (r : Resource k) : Run k NextPass := do
  during s!"failed to update {k.name} {r.key.text}" r.updateEntity
  match g.successRequeue with
  | none => return .onChange
  | some d => return .after d

/-- Does what is due for an object. -/
def transition (g : Engine k) (r : Resource k) : Run k NextPass :=
  match g.lifecycle r with
  | .pendingCreation => pendingCreation r
  | .pendingDeletion => pendingDeletion r
  | .outOfScope => outOfScope r
  | .active => g.active r

def recordOutcome (outcome : Outcome) (elapsed : Duration) : Run k Unit :=
  measure fun m => m.recordReconcile k.name outcome.name elapsed

/-- One pass on the object under a key. Its failure is published, unless the object could not be
loaded; `elapsed` is how long the pass took. -/
def reconcile (g : Engine k) (key : ObjectKey) (elapsed : Duration) : Run k NextPass := do
  match ← during s!"failed to load {k.name} {key.text}" (load key) with
  | none =>
    recordOutcome .skipped elapsed
    return .onChange
  | some r =>
    match ← attempt (g.transition r) with
    | .ok next =>
      recordOutcome .success elapsed
      return next
    | .error f =>
      publish .warning f.reason f.text
      recordOutcome .error elapsed
      throw f

end Engine

end ResourceSync
