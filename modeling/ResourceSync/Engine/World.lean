import ResourceSync.Cluster.Store
import ResourceSync.Metrics.Basic
import ResourceSync.Remote.Failure
import ResourceSync.Remote.Platform

/-! The world that a pass works on, and the calls it makes there. Around every call something may
happen: the call fails without effect, or someone else acts first. -/
namespace ResourceSync

/-- How grave an event is. -/
inductive Severity where
  | normal
  | warning
deriving DecidableEq, Repr

def Severity.name : Severity → String
  | normal => "Normal"
  | warning => "Warning"

/-- What is published about an object. -/
structure Event where
  severity : Severity
  reason : Reason
  message : String
deriving DecidableEq, Repr

/-- The calls around which something may happen. -/
inductive Site where
  | storeGet
  | patchFinalizers
  | writeStatus
  | remoteCreate
  | remoteGet
  | remoteUpdate
  | remoteDelete
deriving DecidableEq, Repr

/-- What happens around one call. -/
inductive Turn (k : Kind) where
  /-- The call goes through. -/
  | pass
  /-- Someone changes the objects, and then the call goes through. -/
  | meddle (change : Store k → Store k)
  /-- The call fails and has no effect. -/
  | fail (cause : FailureCause)
  /-- The call goes through, and an entity is reported other than it is. -/
  | distort (change : Entity k.Body → Entity k.Body)

structure World (k : Kind) where
  store : Store k
  platform : Platform k
  metrics : Metrics
  /-- What was published, in order. -/
  events : List Event
  /-- What is to happen around the next calls; after that they all go through. -/
  plan : Site → List (Turn k)

/-- Steps in a world. A step that fails keeps what it has done so far. -/
abbrev Run (k : Kind) := EStateM Failure (World k)

namespace World
variable {k : Kind} {α : Type}

/-- A world without objects and entities, in which every call goes through. -/
def empty (ids : List String) : World k := ⟨.empty, .ofIds ids, .empty, [], fun _ => []⟩

/-- What happens around the next call at a site. -/
def nextTurn (site : Site) : Run k (Turn k) :=
  modifyGet fun w =>
    ((w.plan site).headD .pass,
      { w with plan := fun s => if s = site then (w.plan s).tail else w.plan s })

/-- Makes a call at a site. -/
def around (site : Site) (call : Run k α) : Run k α := do
  match ← nextTurn site with
  | .fail cause => throw (Failure.ofCause cause)
  | .meddle change =>
    modify fun w => { w with store := change w.store }
    call
  | _ => call

/-- A step of the store as a step of the world. -/
def onStore (f : Store k → Except StoreError α × Store k) : Run k α := do
  let (result, store) := f (← get).store
  modify fun w => { w with store := store }
  match result with
  | .ok a => return a
  | .error e => throw (Failure.ofMessage e.message)

/-- A step of the platform as a step of the world. -/
def onPlatform (f : Platform k → Except RemoteError α × Platform k) : Run k α := do
  let (result, platform) := f (← get).platform
  modify fun w => { w with platform := platform }
  match result with
  | .ok a => return a
  | .error e => throw (Failure.ofRemote e)

def load (key : ObjectKey) : Run k (Option (Resource k)) :=
  around .storeGet do return (← get).store.get? key

def patchFinalizers (r : Resource k) (finalizers : List String) : Run k Unit :=
  around .patchFinalizers (onStore fun s => s.patchFinalizers r.key finalizers)

def writeStatus (r : Resource k) (status : Option k.Status) : Run k (Resource k) :=
  around .writeStatus (onStore fun s => s.writeStatus r status)

def publish (severity : Severity) (reason : Reason) (message : String) : Run k Unit :=
  modify fun w => { w with events := w.events ++ [⟨severity, reason, message⟩] }

def createEntity (body : k.Body) : Run k String :=
  around .remoteCreate (onPlatform fun p => p.create body)

def getEntity (id : String) : Run k (Entity k.Body) := do
  let call := onPlatform fun p => p.get id
  match ← nextTurn .remoteGet with
  | .fail cause => throw (Failure.ofCause cause)
  | .meddle change =>
    modify fun w => { w with store := change w.store }
    call
  | .distort change => return change (← call)
  | .pass => call

def updateEntity (id : String) (body : k.Body) : Run k (Entity k.Body) :=
  around .remoteUpdate (onPlatform fun p => p.update id body)

def deleteEntity (id : String) : Run k Unit :=
  around .remoteDelete (onPlatform fun p => p.delete id)

def measure (f : Metrics → Metrics) : Run k Unit :=
  modify fun w => { w with metrics := f w.metrics }

/-- Names the circumstances of a failure. -/
def during (context : String) (x : Run k α) : Run k α := fun w =>
  match x w with
  | .ok a w => .ok a w
  | .error f w => .error (f.within context) w

/-- The outcome of a step that may fail, as a value. -/
def attempt (x : Run k α) : Run k (Except Failure α) := fun w =>
  match x w with
  | .ok a w => .ok (.ok a) w
  | .error f w => .ok (.error f) w

end World

end ResourceSync
