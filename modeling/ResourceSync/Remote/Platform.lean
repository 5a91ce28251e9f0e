import ResourceSync.Kind.Basic
import ResourceSync.Remote.Error
import ResourceSync.SortedMap

/-! The management platform's collection of entities of one kind. -/
namespace ResourceSync

/-- How often each call was made, whatever became of it. -/
structure CallCounts where
  create : Nat
  get : Nat
  update : Nat
  delete : Nat
deriving DecidableEq, Repr

/-- How often the entities were changed by each call that changes them. -/
structure ChangeCounts where
  create : Nat
  update : Nat
  delete : Nat
deriving DecidableEq, Repr

structure Platform (k : Kind) where
  entities : SortedMap String (Entity k.Body)
  /-- Identifiers that are handed out first. -/
  nextIds : List String
  /-- How many identifiers were made up after that. -/
  madeIds : Nat
  /-- How many of the next calls fail. -/
  outage : Nat
  calls : CallCounts
  /-- Calls that went through alone count here. -/
  changes : ChangeCounts

namespace Platform
variable {k : Kind} {α : Type}

def ofIds (ids : List String) : Platform k := ⟨∅, ids, 0, 0, ⟨0, 0, 0, 0⟩, ⟨0, 0, 0⟩⟩

def entity? (p : Platform k) (id : String) : Option (Entity k.Body) := p.entities.get? id

def entityPath (id : String) : String := s!"/fake/{id}"

/-- Makes a call, unless the platform is out of order. -/
def attempt (p : Platform k) (method id : String)
    (call : Platform k → Except RemoteError α × Platform k) : Except RemoteError α × Platform k :=
  if p.outage = 0 then call p
  else
    (.error (.api method (entityPath id) 503 "injected failure"), { p with outage := p.outage - 1 })

/-- The identifier of the next entity. -/
def takeId (p : Platform k) : String × Platform k :=
  match p.nextIds with
  | id :: ids => (id, { p with nextIds := ids })
  | [] => (s!"id-{p.madeIds + 1}", { p with madeIds := p.madeIds + 1 })

def create (p : Platform k) (body : k.Body) : Except RemoteError String × Platform k :=
  let p := { p with calls := { p.calls with create := p.calls.create + 1 } }
  p.attempt "POST" "" fun p =>
    let (id, p) := p.takeId
    let e : Entity k.Body := ⟨id, none, some "2025-01-01T00:00:00Z", none, body⟩
    (.ok id,
      { p with
        entities := p.entities.insert id e
        changes := { p.changes with create := p.changes.create + 1 } })

def get (p : Platform k) (id : String) : Except RemoteError (Entity k.Body) × Platform k :=
  let p := { p with calls := { p.calls with get := p.calls.get + 1 } }
  p.attempt "GET" id fun p =>
    match p.entity? id with
    | some e => (.ok e, p)
    | none => (.error (.notFound (entityPath id)), p)

def update (p : Platform k) (id : String) (body : k.Body) :
    Except RemoteError (Entity k.Body) × Platform k :=
  let p := { p with calls := { p.calls with update := p.calls.update + 1 } }
  p.attempt "PUT" id fun p =>
    match p.entity? id with
    | some e =>
      let e : Entity k.Body := { e with body := body, updatedAt := some "2025-01-02T00:00:00Z" }
      (.ok e,
        { p with
          entities := p.entities.insert id e
          changes := { p.changes with update := p.changes.update + 1 } })
    | none => (.error (.notFound (entityPath id)), p)

def delete (p : Platform k) (id : String) : Except RemoteError Unit × Platform k :=
  let p := { p with calls := { p.calls with delete := p.calls.delete + 1 } }
  p.attempt "DELETE" id fun p =>
    match p.entity? id with
    | some _ =>
      (.ok (),
        { p with
          entities := p.entities.erase id
          changes := { p.changes with delete := p.changes.delete + 1 } })
    | none => (.error (.notFound (entityPath id)), p)

/-- Someone else removes an entity. -/
def remove (p : Platform k) (id : String) : Platform k :=
  { p with entities := p.entities.erase id }

/-- Someone else changes the body of an entity. -/
def setBody (p : Platform k) (id : String) (body : k.Body) : Platform k :=
  { p with entities := p.entities.modify id fun e => { e with body := body } }

end Platform

end ResourceSync
