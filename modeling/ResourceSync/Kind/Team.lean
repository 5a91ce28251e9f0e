import ResourceSync.Kind.IdStatus
import ResourceSync.Kind.Members
import ResourceSync.Kind.SpecError
import ResourceSync.Remote.Entity

/-! Teams: their administrators and how much they may ingest in a day. -/
namespace ResourceSync

structure TeamSpec where
  name : String
  description : Option String
  admins : List String
  dailyQuotaUnits : Option Binary64
deriving DecidableEq

def TeamSpec.layout : Layout TeamSpec := .record "TeamSpec"
  (.cons (.required "name" .text) <|
    .cons (.optional "description" .text) <|
    .cons (.defaulted "admins" (.list .text) []) <|
    .cons (.optional "dailyQuotaUnits" .binary64) .nil)
  (fun s => (s.name, s.description, s.admins, s.dailyQuotaUnits, ()))
  (fun (name, description, admins, quota, ()) => ⟨name, description, admins, quota⟩)

/-- A team on the platform. -/
structure TeamBody where
  name : String
  description : String
  adminsEmails : List String
  dailyQuota : Option Binary64
deriving DecidableEq

def TeamBody.layout : Layout TeamBody := .record "TeamBody"
  (.cons (.required "name" .text) <|
    .cons (.defaulted "description" .text "") <|
    .cons (.defaulted "adminsEmails" (.list .text) []) <|
    .cons (.optional "dailyQuota" .binary64) .nil)
  (fun b => (b.name, b.description, b.adminsEmails, b.dailyQuota, ()))
  (fun (name, description, adminsEmails, dailyQuota, ()) =>
    ⟨name, description, adminsEmails, dailyQuota⟩)

/-- Whether a number can be a quota. -/
def isQuota (x : Binary64) : Bool := x.isFinite && x.nonnegative

namespace TeamSpec

/-- The entity that the spec asks for. -/
def desiredBody (s : TeamSpec) : Except SpecError TeamBody :=
  if s.dailyQuotaUnits.all isQuota then
    .ok ⟨s.name, s.description.getD "", s.admins, s.dailyQuotaUnits⟩
  else .error (.badQuota s.name)

end TeamSpec

/-- Whether two quotas are the same number, or both are absent. -/
def sameQuota : Option Binary64 → Option Binary64 → Bool
  | some a, some b => a.equals b
  | none, none => true
  | _, _ => false

namespace TeamBody

/-- Whether an entity has the wanted body, the administrators being a set. -/
def inSync (desired observed : TeamBody) : Bool :=
  desired.name = observed.name && desired.description = observed.description &&
    sameQuota desired.dailyQuota observed.dailyQuota &&
    sameMembers desired.adminsEmails observed.adminsEmails

def observedStatus (e : Entity TeamBody) : IdStatus := ⟨some e.id⟩

end TeamBody

end ResourceSync
