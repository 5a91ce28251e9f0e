import ResourceSync.Json.Record
import ResourceSync.Json.Value
import ResourceSync.Object.Timestamp.Parser
import ResourceSync.Selector.Basic

/-! What every object of the cluster carries beside its own content. -/
namespace ResourceSync

/-- A reference from an object to one that it belongs to. -/
structure OwnerReference where
  apiVersion : String
  blockOwnerDeletion : Option Bool
  controller : Option Bool
  kind : String
  name : String
  uid : String
deriving DecidableEq, Repr

namespace OwnerReference

/-- A text that may be null or missing but is always written. -/
def plainText : Codec String :=
  .uniform (fun j => (Codec.text.option.decode j).map fun s => s.getD "") .str

def layout : Layout OwnerReference where
  Tuple := String × Option Bool × Option Bool × String × String × String × Unit
  name := "OwnerReference"
  listable := false
  repeats := true
  fields :=
    .cons (.defaulted "apiVersion" plainText "") <|
    .cons (.optional "blockOwnerDeletion" .bool) <|
    .cons (.optional "controller" .bool) <|
    .cons (.defaulted "kind" plainText "") <|
    .cons (.defaulted "name" plainText "") <|
    .cons (.defaulted "uid" plainText "") .nil
  toTuple r := (r.apiVersion, r.blockOwnerDeletion, r.controller, r.kind, r.name, r.uid, ())
  ofTuple := fun (apiVersion, block, controller, kind, name, uid, ()) =>
    ⟨apiVersion, block, controller, kind, name, uid⟩

end OwnerReference

/-- The fields of an object that one of its managers has set. -/
structure ManagedFields where
  apiVersion : Option String
  fieldsType : Option String
  /-- The fields as a tree of their names. -/
  fields : Option Json.Value
  manager : Option String
  operation : Option String
  subresource : Option String
  time : Option Timestamp
deriving DecidableEq

def ManagedFields.layout : Layout ManagedFields where
  Tuple := Option String × Option String × Option Json.Value × Option String × Option String ×
    Option String × Option Timestamp × Unit
  name := "ManagedFieldsEntry"
  listable := false
  repeats := true
  fields :=
    .cons (.optional "apiVersion" .text) <|
    .cons (.optional "fieldsType" .text) <|
    .cons (.optional "fieldsV1" .value) <|
    .cons (.optional "manager" .text) <|
    .cons (.optional "operation" .text) <|
    .cons (.optional "subresource" .text) <|
    .cons (.optional "time" Timestamp.codec) .nil
  toTuple e := (e.apiVersion, e.fieldsType, e.fields, e.manager, e.operation, e.subresource,
    e.time, ())
  ofTuple := fun (apiVersion, fieldsType, fields, manager, operation, subresource, time, ()) =>
    ⟨apiVersion, fieldsType, fields, manager, operation, subresource, time⟩

/-- The metadata of an object. What was never given stays apart from what is empty. -/
structure Metadata where
  annotations : Option Labels
  creationTimestamp : Option Timestamp
  deletionGracePeriodSeconds : Option Int64
  deletionTimestamp : Option Timestamp
  finalizers : Option (List String)
  generateName : Option String
  generation : Option Int64
  labels : Option Labels
  managedFields : Option (List ManagedFields)
  name : Option String
  inNamespace : Option String
  ownerReferences : Option (List OwnerReference)
  resourceVersion : Option String
  selfLink : Option String
  uid : Option String
deriving DecidableEq

namespace Metadata

def empty : Metadata :=
  ⟨none, none, none, none, none, none, none, none, none, none, none, none, none, none, none⟩

instance : Inhabited Metadata := ⟨empty⟩

def layout : Layout Metadata where
  Tuple := Option Labels × Option Timestamp × Option Int64 × Option Timestamp ×
    Option (List String) × Option String × Option Int64 × Option Labels ×
    Option (List ManagedFields) × Option String × Option String × Option (List OwnerReference) ×
    Option String × Option String × Option String × Unit
  name := "ObjectMeta"
  listable := false
  repeats := true
  fields :=
    .cons (.optional "annotations" (.map .text)) <|
    .cons (.optional "creationTimestamp" Timestamp.codec) <|
    .cons (.optional "deletionGracePeriodSeconds" .int64) <|
    .cons (.optional "deletionTimestamp" Timestamp.codec) <|
    .cons (.optional "finalizers" (.list .text)) <|
    .cons (.optional "generateName" .text) <|
    .cons (.optional "generation" .int64) <|
    .cons (.optional "labels" (.map .text)) <|
    .cons (.optional "managedFields" (.list ManagedFields.layout.codec)) <|
    .cons (.optional "name" .text) <|
    .cons (.optional "namespace" .text) <|
    .cons (.optional "ownerReferences" (.list OwnerReference.layout.codec)) <|
    .cons (.optional "resourceVersion" .text) <|
    .cons (.optional "selfLink" .text) <|
    .cons (.optional "uid" .text) .nil
  toTuple m := (m.annotations, m.creationTimestamp, m.deletionGracePeriodSeconds,
    m.deletionTimestamp, m.finalizers, m.generateName, m.generation, m.labels, m.managedFields,
    m.name, m.inNamespace, m.ownerReferences, m.resourceVersion, m.selfLink, m.uid, ())
  ofTuple := fun (annotations, created, gracePeriod, deleted, finalizers, generateName, generation,
      labels, managed, name, home, owners, version, link, uid, ()) =>
    ⟨annotations, created, gracePeriod, deleted, finalizers, generateName, generation, labels,
      managed, name, home, owners, version, link, uid⟩

def codec : Codec Metadata := layout.codec

/-- The labels; none, where none were given. -/
def labelMap (m : Metadata) : Labels := m.labels.getD ∅

def finalizerList (m : Metadata) : List String := m.finalizers.getD []

def isDeleting (m : Metadata) : Bool := m.deletionTimestamp.isSome

/-- The name, or else the start of a name that is still to be completed. -/
def anyName (m : Metadata) : String := (m.name.or m.generateName).getD ""

/-- The name of the namespace; empty, where there is none. -/
def namespaceName (m : Metadata) : String := m.inNamespace.getD ""

end Metadata

end ResourceSync
