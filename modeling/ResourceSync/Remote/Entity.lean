import ResourceSync.Json.Record

/-! Entities of the management platform: a body under an identifier. -/
namespace ResourceSync

/-- An entity as the platform reports it. -/
structure Entity (β : Type) where
  id : String
  /-- A second, numeric identifier that some entities carry. -/
  externalId : Option UInt64
  createdAt : Option String
  updatedAt : Option String
  body : β
deriving DecidableEq

namespace Entity
variable {β : Type}

/-- The fields that the platform adds to a body. -/
structure Identity where
  id : String
  externalId : Option UInt64
  createdAt : Option String
  updatedAt : Option String
deriving DecidableEq

def Identity.layout : Layout Identity where
  Tuple := String × Option UInt64 × Option String × Option String × Unit
  name := "struct RemoteEntity"
  listable := false
  repeats := false
  fields :=
    .cons (.required "id" .text) <|
    .cons (.optional "externalId" .uint64) <|
    .cons (.optional "createdAt" .text) <|
    .cons (.optional "updatedAt" .text) .nil
  toTuple i := (i.id, i.externalId, i.createdAt, i.updatedAt, ())
  ofTuple := fun (id, externalId, createdAt, updatedAt, ()) =>
    ⟨id, externalId, createdAt, updatedAt⟩

def identity (e : Entity β) : Identity := ⟨e.id, e.externalId, e.createdAt, e.updatedAt⟩

def ofIdentity (i : Identity) (body : β) : Entity β :=
  ⟨i.id, i.externalId, i.createdAt, i.updatedAt, body⟩

/-- One object holds the members of the body beside those of the identity, which are read first. All
of them have to be readable. -/
def codec (body : Layout β) : Codec (Entity β) where
  read
    | p, .obj ms => do
      let i ← Identity.layout.readMembers p ms
      if let some e := Json.membersFault? ms then throw (.malformed e.message)
      let b ← body.readMembers .shared ms
      return ofIdentity i b
    | _, j => .error (.wrongType j Identity.layout.name)
  encode e := .obj (Identity.layout.encodeMembers e.identity ++ body.encodeMembers e.body)

end Entity

end ResourceSync
