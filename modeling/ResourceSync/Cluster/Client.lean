import ResourceSync.Cluster.Api
import ResourceSync.Json.MergePatch

/-! The resources of the cluster through its API server. -/
namespace ResourceSync

namespace Kind

/-- The path of a kind's resources in a namespace. -/
def path (k : Kind) (inNamespace : String) : String :=
  s!"/apis/{apiVersion}/namespaces/{inNamespace}/{k.plural}"

end Kind

namespace Resource
variable {k : Kind}

def place (r : Resource k) : String := s!"{r.metadata.namespaceName}/{r.metadata.anyName}"

/-- The patch that replaces the finalizers. -/
def finalizerPatch (finalizers : List String) : Json :=
  .obj [("metadata", .obj [("finalizers", .arr (finalizers.map .str))])]

/-- The patch that replaces the status of the version that was read. -/
def statusPatch (r : Resource k) (status : Option k.Status) : Json :=
  let version := match r.metadata.resourceVersion with
    | some v => .str v
    | none => .null
  let new := (status.map encodeStatus).getD .null
  .obj [("metadata", .obj [("resourceVersion", version)]),
    ("status", Json.replacementPatch (r.status.map encodeStatus) new)]

/-- The document of an event about a resource. -/
def eventDocument (r : Resource k) (type reason message : String) : Json :=
  let optional := fun (name : String) (value : Option String) =>
    (value.map fun v => (name, Json.str v)).toList
  let subject := [("apiVersion", Json.str apiVersion), ("kind", .str k.name),
    ("name", .str r.metadata.anyName), ("namespace", .str r.metadata.namespaceName)] ++
    optional "uid" r.metadata.uid ++ optional "resourceVersion" r.metadata.resourceVersion
  .obj [("apiVersion", .str "v1"), ("kind", .str "Event"), ("count", .int 1),
    ("involvedObject", .obj subject), ("message", .str message),
    ("metadata", .obj [("generateName", .str (r.metadata.anyName ++ "-")),
      ("namespace", .str r.metadata.namespaceName)]),
    ("reason", .str reason), ("type", .str type)]

end Resource

/-- The resources of a kind behind a connection. -/
structure ClusterClient (m : Type → Type) (k : Kind) where
  api : ApiConnection m

namespace ClusterClient
variable {m : Type → Type} [Monad m] {k : Kind} {α : Type}

def mergePatchType : String := "application/merge-patch+json"

def applyPatchType : String := "application/apply-patch+yaml"

def jsonType : String := "application/json"

/-- The name under which the program applies objects. -/
def fieldManager : String := "obsync"

/-- A request on one object. Objects without a name cannot be asked for. -/
def onObject (c : ClusterClient m k) (method : HttpMethod) (inNamespace name part : String)
    (parameters : Option (List (String × String))) (contentType : Option String)
    (body : Option Json) (codec : Codec α) : m (Except ApiError α) :=
  if name.isEmpty then return .error .malformedRequest
  else
    let path := s!"{k.path inNamespace}/{name}{part}"
    let target := (parameters.map (ApiCall.withParameters path)).getD path
    c.api.exchange ⟨method, target, contentType, body⟩ codec

/-- Names the circumstances of a failed request. -/
def during (context : String) (x : m (Except ApiError α)) : m (Except ApiFailure α) :=
  return (← x).mapError fun e => ⟨[context], e⟩

def get (c : ClusterClient m k) (inNamespace name : String) :
    m (Except ApiFailure (Option (Resource k))) :=
  during s!"Failed to read {k.name} {inNamespace}/{name}" do
    match ← c.onObject .get inNamespace name "" none none none (Resource.codec k) with
    | .ok r => return .ok (some r)
    | .error e => return if e.isNotFound then .ok none else .error e

def patchFinalizers (c : ClusterClient m k) (r : Resource k) (finalizers : List String) :
    m (Except ApiFailure Unit) :=
  during s!"Failed to patch finalizers of {k.name} {r.place}" do
    let answer ← c.onObject .patch r.metadata.namespaceName r.metadata.anyName "" (some [])
      (some mergePatchType) (some (Resource.finalizerPatch finalizers)) (Resource.codec k)
    return answer.map fun _ => ()

def writeStatus (c : ClusterClient m k) (r : Resource k) (status : Option k.Status) :
    m (Except ApiFailure (Resource k)) :=
  during s!"Failed to write status of {k.name} {r.place}"
    (c.onObject .patch r.metadata.namespaceName r.metadata.anyName "/status" (some [])
      (some mergePatchType) (some (r.statusPatch status)) (Resource.codec k))

/-- Publishes an event; that it could not be published is of no consequence. -/
def publishEvent (c : ClusterClient m k) (r : Resource k) (type reason message : String) :
    m Unit := do
  let path := s!"/api/v1/namespaces/{r.metadata.namespaceName}/events"
  let document := r.eventDocument type reason message
  discard (c.api.exchange ⟨.post, ApiCall.withParameters path [], some jsonType, some document⟩
    Codec.document)

/-- Creates a resource or takes over the one under its name. -/
def apply (c : ClusterClient m k) (inNamespace : String) (r : Resource k) :
    m (Except ApiError Unit) := do
  let answer ← c.onObject .patch inNamespace r.metadata.anyName ""
    (some [("fieldManager", fieldManager), ("force", "true")]) (some applyPatchType)
    (some ((Resource.codec k).encode r)) (Resource.codec k)
  return answer.map fun _ => ()

/-- Items, none where null stands for them. -/
def itemsCodec (k : Kind) : Codec (List (Resource k)) where
  read p j := (((Codec.list (Resource.codec k)).option.read p j)).map fun rs => rs.getD []
  encode := (Codec.list (Resource.codec k)).encode

/-- A list of resources. Besides its items only the metadata are looked at; all else has to be
readable. -/
def listLayout (k : Kind) : Layout (List (Resource k)) where
  Tuple := Unit × List (Resource k) × Unit
  name := "struct ObjectList"
  listable := false
  repeats := false
  fields :=
    .cons (.defaulted "metadata" listMetadata.codec ()) <|
    .cons (.required "items" (itemsCodec k)) .nil
  toTuple rs := ((), rs, ())
  ofTuple := fun ((), rs, ()) => rs

def listCodec (k : Kind) : Codec (List (Resource k)) where
  read p j := do
    let others := j.members.filter fun m => !(listLayout k).fields.names.contains m.1
    if let some e := Json.membersFault? others then throw (.malformed e.message)
    (listLayout k).codec.read p j
  encode := (listLayout k).codec.encode

/-- The resources that carry a label with a value. -/
def list (c : ClusterClient m k) (inNamespace label value : String) :
    m (Except ApiError (List (Resource k))) :=
  let target := ApiCall.withParameters (k.path inNamespace) [("labelSelector", s!"{label}={value}")]
  c.api.exchange ⟨.get, target, none, none⟩ (listCodec k)

/-- What the server says of a deletion: a report, or the resource as it is marked. -/
def deletionCodec (k : Kind) : Codec Unit where
  read p j := do
    if let some e := j.fault? then throw (.malformed e.message)
    if j.canonical.textD "kind" = "Status" then discard (StatusReport.layout.codec.read p j)
    else discard ((Resource.codec k).read p j)
  encode _ := .obj [("kind", .str "Status")]

def delete (c : ClusterClient m k) (inNamespace name : String) : m (Except ApiError Unit) :=
  c.onObject .delete inNamespace name "" (some []) (some jsonType) (some (.obj []))
    (deletionCodec k)

end ClusterClient

end ResourceSync
