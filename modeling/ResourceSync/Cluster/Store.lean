import ResourceSync.Json.MergePatch
import ResourceSync.Object.Resource

/-! The objects of one kind as the cluster holds them. Every change gives the object a new
version. -/
namespace ResourceSync

/-- Where an object is found. -/
structure ObjectKey where
  inNamespace : String
  name : String
deriving DecidableEq, Repr

namespace ObjectKey

def text (k : ObjectKey) : String := s!"{k.inNamespace}/{k.name}"

/-- Keys stand in the order of their namespaces, and of their names within one. -/
def Precedes (a b : ObjectKey) : Prop :=
  a.inNamespace < b.inNamespace ∨ a.inNamespace = b.inNamespace ∧ a.name < b.name

instance (a b : ObjectKey) : Decidable (Precedes a b) := by unfold Precedes; infer_instance

end ObjectKey

instance : KeyOrder ObjectKey where
  lt := ObjectKey.Precedes
  decidableLT a b := inferInstanceAs (Decidable (ObjectKey.Precedes a b))
  lt_irrefl a h := by
    rcases h with h | ⟨_, h⟩
    · exact String.lt_irrefl _ h
    · exact String.lt_irrefl _ h
  lt_trans {a b c} h₁ h₂ := by
    rcases h₁ with h₁ | ⟨e₁, h₁⟩ <;> rcases h₂ with h₂ | ⟨e₂, h₂⟩
    · exact .inl (String.lt_trans h₁ h₂)
    · exact .inl (e₂ ▸ h₁)
    · exact .inl (e₁ ▸ h₂)
    · exact .inr ⟨e₁.trans e₂, String.lt_trans h₁ h₂⟩
  lt_trichotomous {a b} h₁ h₂ := by
    obtain ⟨an, aname⟩ := a
    obtain ⟨bn, bname⟩ := b
    have hn : an = bn := KeyOrder.lt_trichotomous (fun h => h₁ (.inl h)) (fun h => h₂ (.inl h))
    subst hn
    have hname : aname = bname :=
      KeyOrder.lt_trichotomous (fun h => h₁ (.inr ⟨rfl, h⟩)) (fun h => h₂ (.inr ⟨rfl, h⟩))
    rw [hname]

/-- The key under which a resource is stored. -/
def Resource.key {k : Kind} (r : Resource k) : ObjectKey :=
  ⟨r.metadata.namespaceName, r.metadata.anyName⟩

/-- Why the cluster refuses a write. -/
inductive StoreError where
  | outage
  | notFound (key : ObjectKey)
  | conflict (key : ObjectKey)
deriving DecidableEq, Repr

def StoreError.message : StoreError → String
  | .outage => "injected status write failure"
  | .notFound key => s!"{key.text} not found"
  | .conflict key => s!"conflict writing status of {key.text}: stale resourceVersion"

structure Store (k : Kind) where
  objects : SortedMap ObjectKey (Resource k)
  /-- The version that the next change gets. -/
  nextVersion : Nat
  /-- How many of the next status writes fail. -/
  outage : Nat
  statusWrites : Nat
  finalizerPatches : Nat

namespace Store
variable {k : Kind}

def empty : Store k := ⟨∅, 1, 0, 0, 0⟩

def get? (s : Store k) (key : ObjectKey) : Option (Resource k) := s.objects.get? key

/-- The object under the version that the next change gets. -/
def stamped (s : Store k) (r : Resource k) : Resource k :=
  { r with metadata := { r.metadata with resourceVersion := some (toString s.nextVersion) } }

/-- The store with a changed object under a key. -/
def put (s : Store k) (key : ObjectKey) (r : Resource k) : Store k :=
  { s with objects := s.objects.insert key (s.stamped r), nextVersion := s.nextVersion + 1 }

/-- A user creates or replaces an object; without a namespace it goes into the default one. -/
def insert (s : Store k) (r : Resource k) : Store k :=
  let r : Resource k :=
    { r with
      metadata := { r.metadata with inNamespace := r.metadata.inNamespace.or (some "default") } }
  s.put r.key r

/-- A user merges a patch into an object. -/
def edit? (s : Store k) (key : ObjectKey) (patch : Json) : Option (Decoded (Store k)) :=
  (s.get? key).map fun r =>
    let merged := (((Resource.codec k).encode r).mergePatch patch).canonical
    ((Resource.codec k).decode merged).map (s.put key)

/-- A user deletes an object. While finalizers stand it is only marked, at the time given. -/
def delete (s : Store k) (key : ObjectKey) (now : Timestamp) : Store k :=
  match s.get? key with
  | none => s
  | some r =>
    if r.metadata.finalizerList.isEmpty then { s with objects := s.objects.erase key }
    else s.put key { r with metadata := { r.metadata with deletionTimestamp := some now } }

/-- Replaces the finalizers of the stored object. A marked object without finalizers vanishes. -/
def patchFinalizers (s : Store k) (key : ObjectKey) (finalizers : List String) :
    Except StoreError Unit × Store k :=
  let s := { s with finalizerPatches := s.finalizerPatches + 1 }
  match s.get? key with
  | none => (.error (.notFound key), s)
  | some r =>
    let s := s.put key { r with metadata := { r.metadata with finalizers := some finalizers } }
    if r.metadata.isDeleting && finalizers.isEmpty then
      (.ok (), { s with objects := s.objects.erase key })
    else (.ok (), s)

/-- Replaces the status of the stored object, unless it has changed since `r` was read. -/
def writeStatus (s : Store k) (r : Resource k) (status : Option k.Status) :
    Except StoreError (Resource k) × Store k :=
  if 0 < s.outage then (.error .outage, { s with outage := s.outage - 1 })
  else
    match s.get? r.key with
    | none => (.error (.notFound r.key), s)
    | some stored =>
      if stored.metadata.resourceVersion ≠ r.metadata.resourceVersion then
        (.error (.conflict r.key), s)
      else
        let changed : Resource k := { stored with status := status }
        (.ok (s.stamped changed), { s.put r.key changed with statusWrites := s.statusWrites + 1 })

end Store

end ResourceSync
