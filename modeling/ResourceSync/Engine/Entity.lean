import ResourceSync.Engine.World

/-! What a pass does to the entity of a resource: it is created, brought in step or deleted. -/
namespace ResourceSync
variable {k : Kind}
open World

namespace Resource

/-- The body that the spec asks for; the failure, where it asks for none. -/
def body (r : Resource k) : Run k k.Body :=
  match r.desiredBody with
  | .ok b => return b
  | .error e => throw (Failure.ofCause (.invalidSpec e.message))

def track (r : Resource k) : Run k Unit :=
  measure fun m => m.setResource k.name r.key.inNamespace r.key.name r.typeLabel

def untrack (r : Resource k) : Run k Unit :=
  measure fun m => m.removeResource k.name r.key.inNamespace r.key.name

def countOperation (k : Kind) (operation : Operation) : Run k Unit :=
  measure fun m => m.recordOperation k.name operation.name

/-- Creates the entity and records its identifier at once. Where that fails the entity is deleted
again, whatever comes of it. -/
def createEntity (r : Resource k) : Run k Unit := do
  let body ← r.body
  let id ← during s!"failed to create remote {k.name}" (World.createEntity body)
  countOperation k .create
  let stored ←
    match ← attempt (writeStatus r (some (k.statusWithId id))) with
    | .ok stored => pure stored
    | .error f =>
      discard (attempt (deleteEntity id))
      throw (f.within s!"failed to record remote id {id}")
  let e ← during s!"failed to read back remote {k.name} {id}" (getEntity id)
  let observed := k.observedStatus e
  if stored.status ≠ some observed then discard (writeStatus stored (some observed))
  r.track

/-- Brings the entity in step with the spec. Where the platform has lost it the recorded
identifier is given up, so that the next pass creates another. -/
def updateEntity (r : Resource k) : Run k Unit := do
  let id := r.remoteId.getD ""
  let e ←
    match ← attempt (getEntity id) with
    | .ok e => pure e
    | .error f =>
      match f.cause with
      | .remote (.notFound _) =>
        publish .warning .remoteNotFound s!"Remote entity {id} not found, it will be recreated"
        discard (writeStatus r none)
        r.untrack
        throw (f.within s!"remote {k.name} {id} disappeared")
      | _ => throw (f.within s!"failed to read remote {k.name} {id}")
  let desired ← r.body
  let e ←
    if k.inSync desired e.body then pure e
    else do
      let updated ← during s!"failed to update remote {k.name} {id}" (World.updateEntity id desired)
      countOperation k .update
      publish .normal .updated s!"Updated remote entity {id}"
      pure updated
  let observed := k.observedStatus e
  if r.status ≠ some observed then discard (writeStatus r (some observed))
  r.track

/-- Deletes the entity, if one was ever recorded. One that is gone already is as good as deleted. -/
def deleteEntity (r : Resource k) : Run k Unit := do
  match r.remoteId with
  | none => return ()
  | some id =>
    match ← attempt (World.deleteEntity id) with
    | .ok () => countOperation k .delete
    | .error f =>
      match f.cause with
      | .remote (.notFound _) => pure ()
      | _ => throw (f.within s!"failed to delete remote {k.name} {id}")
    r.untrack

end Resource

end ResourceSync
