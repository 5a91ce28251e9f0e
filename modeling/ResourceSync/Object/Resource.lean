import ResourceSync.Kind.Basic
import ResourceSync.Object.Metadata

/-! Resources: what users declare and what is remembered of the entity that it became. -/
namespace ResourceSync

/-- The group and version of the declared kinds. -/
def apiVersion : String := "obsync.io/v1alpha1"

/-- A resource of a kind. -/
structure Resource (k : Kind) where
  metadata : Metadata
  spec : k.Spec
  status : Option k.Status
deriving DecidableEq

namespace Resource
variable {k : Kind}

/-- A status may be null or missing, but not left out of a list. -/
def statusField (k : Kind) : Field (Option k.Status) :=
  { Field.optional "status" k.statusLayout.codec with absentItem := none }

def layout (k : Kind) : Layout (Resource k) := .record k.name
  (.cons (.required "metadata" Metadata.codec) <|
    .cons (.required "spec" k.specLayout.codec) <|
    .cons (statusField k) .nil)
  (fun r => (r.metadata, r.spec, r.status, ()))
  (fun (metadata, spec, status, ()) => ⟨metadata, spec, status⟩)

/-- Group, version and kind are written, and not looked at when read. -/
def codec (k : Kind) : Codec (Resource k) where
  read := (layout k).codec.read
  encode r :=
    .obj (("apiVersion", .str apiVersion) :: ("kind", .str k.name) :: (layout k).encodeMembers r)

/-- The identifier of the resource's entity, once it is known. -/
def remoteId (r : Resource k) : Option String := r.status.bind k.recordedId

def hasFinalizer (r : Resource k) (finalizer : String) : Bool :=
  r.metadata.finalizerList.contains finalizer

def desiredBody (r : Resource k) : Except SpecError k.Body := k.desiredBody r.spec

def typeLabel (r : Resource k) : String := k.typeLabel r.spec

def encodeStatus (status : k.Status) : Json := k.statusLayout.codec.encode status

end Resource

end ResourceSync
