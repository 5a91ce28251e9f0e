import ResourceSync.Kind.IdStatus
import ResourceSync.Kind.Members
import ResourceSync.Kind.SpecError
import ResourceSync.Remote.Entity

/-! Keys of the platform's API. The value of a key is never kept. -/
namespace ResourceSync

inductive KeyOwner where
  | teamId (id : String)
  | userId (id : String)
deriving DecidableEq, Repr

namespace KeyOwner

def teamId? : KeyOwner → Option String
  | .teamId id => some id
  | _ => none

def userId? : KeyOwner → Option String
  | .userId id => some id
  | _ => none

def codec : Codec KeyOwner := .union
  [.of "teamId" .text .teamId teamId?, .of "userId" .text .userId userId?]

end KeyOwner

structure ApiKeySpec where
  name : String
  owner : KeyOwner
  presets : List String
  permissions : List String
  active : Bool
deriving DecidableEq, Repr

def ApiKeySpec.layout : Layout ApiKeySpec := .record "ApiKeySpec"
  (.cons (.required "name" .text) <|
    .cons (.required "owner" KeyOwner.codec) <|
    .cons (.defaulted "presets" (.list .text) []) <|
    .cons (.defaulted "permissions" (.list .text) []) <|
    .cons (.defaulted "active" .bool true) .nil)
  (fun s => (s.name, s.owner, s.presets, s.permissions, s.active, ()))
  (fun (name, owner, presets, permissions, active, ()) =>
    ⟨name, owner, presets, permissions, active⟩)

/-- The owner of a key on the platform. -/
structure OwnerBody where
  teamId : Option String
  userId : Option String
deriving DecidableEq, Repr

def OwnerBody.layout : Layout OwnerBody := .record "OwnerBody"
  (.cons (.optional "teamId" .text) <| .cons (.optional "userId" .text) .nil)
  (fun o => (o.teamId, o.userId, ())) (fun (teamId, userId, ()) => ⟨teamId, userId⟩)

/-- A key on the platform. -/
structure ApiKeyBody where
  name : String
  owner : OwnerBody
  presets : List String
  permissions : List String
  active : Bool
deriving DecidableEq, Repr

def ApiKeyBody.layout : Layout ApiKeyBody := .record "ApiKeyBody"
  (.cons (.required "name" .text) <|
    .cons (.required "owner" OwnerBody.layout.codec) <|
    .cons (.defaulted "presets" (.list .text) []) <|
    .cons (.defaulted "permissions" (.list .text) []) <|
    .cons (.defaulted "active" .bool false) .nil)
  (fun b => (b.name, b.owner, b.presets, b.permissions, b.active, ()))
  (fun (name, owner, presets, permissions, active, ()) =>
    ⟨name, owner, presets, permissions, active⟩)

def KeyOwner.body (o : KeyOwner) : OwnerBody := ⟨o.teamId?, o.userId?⟩

namespace ApiKeySpec

/-- The entity that the spec asks for. -/
def desiredBody (s : ApiKeySpec) : Except SpecError ApiKeyBody :=
  if s.presets.isEmpty && s.permissions.isEmpty then .error (.noPermissions s.name)
  else .ok ⟨s.name, s.owner.body, s.presets, s.permissions, s.active⟩

end ApiKeySpec

namespace ApiKeyBody

/-- Whether an entity has the wanted body, presets and permissions being sets. -/
def inSync (desired observed : ApiKeyBody) : Bool :=
  desired.name = observed.name && desired.owner = observed.owner &&
    desired.active = observed.active && sameMembers desired.presets observed.presets &&
    sameMembers desired.permissions observed.permissions

def observedStatus (e : Entity ApiKeyBody) : IdStatus := ⟨some e.id⟩

end ApiKeyBody

end ResourceSync
