import ResourceSync.Prometheus.Sync
import ResourceSync.Proofs.Counting

/-! An API server that keeps the objects generated from Prometheus rules on shelves, one for each
kind and namespace. Some of the requests may be refused, which changes nothing. -/
namespace ResourceSync

/-- The objects of a kind in a namespace, each under its own name. -/
structure Shelf (k : Kind) where
  objects : SortedMap String (Resource k)
  named : ∀ name r, objects.get? name = some r → r.metadata.name = some name

/-- Whether an object is as if another one had just been applied. -/
structure Resource.IsApplied {k : Kind} (a r : Resource k) : Prop where
  metadata : a.metadata = { r.metadata with name := some r.metadata.anyName }
  spec : a.spec = r.spec

namespace Shelf
variable {k : Kind} {c c' : Shelf k} {r a : Resource k} {name label value : String}

def empty : Shelf k where
  objects := .empty
  named := by
    intro name r h
    cases h

def get? (c : Shelf k) (name : String) : Option (Resource k) := c.objects.get? name

/-- An applied object has the metadata and the spec that it is given, and the status that it had. -/
def applied (c : Shelf k) (r : Resource k) : Resource k where
  metadata := { r.metadata with name := some r.metadata.anyName }
  spec := r.spec
  status := (c.get? r.metadata.anyName).bind Resource.status

/-- Creates an object or takes over the one under its name. -/
def apply (c : Shelf k) (r : Resource k) : Shelf k where
  objects := c.objects.insert r.metadata.anyName (c.applied r)
  named := by
    intro name a h
    rw [SortedMap.get?_insert] at h
    split at h
    · next heq =>
      cases h
      rw [heq]
      rfl
    · exact c.named name a h

def erase (c : Shelf k) (name : String) : Shelf k where
  objects := c.objects.erase name
  named := by
    intro name' a h
    by_cases heq : name' = name
    · rw [heq, SortedMap.get?_erase_self] at h
      cases h
    · rw [SortedMap.get?_erase_of_ne heq] at h
      exact c.named name' a h

/-- The objects that carry a label with a value. -/
def labelled (c : Shelf k) (label value : String) : List (Resource k) :=
  (c.objects.toList.map Prod.snd).filter fun r => r.metadata.labelMap.get? label = some value

theorem get?_apply (c : Shelf k) (r : Resource k) :
    (c.apply r).get? = Function.update c.get? r.metadata.anyName (some (c.applied r)) :=
  SortedMap.get?_insert_eq _ _ _

theorem get?_erase (c : Shelf k) (name : String) :
    (c.erase name).get? = Function.update c.get? name none := SortedMap.get?_erase_eq _ _

/-- A shelf is what is found on it. -/
theorem eq_of_get?_eq (h : c.get? = c'.get?) : c = c' := by
  have hobjects : c.objects = c'.objects := SortedMap.eq_of_get?_eq h
  cases c
  cases c'
  cases hobjects
  rfl

theorem anyName_of_get? (h : c.get? name = some a) : a.metadata.anyName = name := by
  rw [Metadata.anyName, c.named name a h]
  rfl

theorem mem_labelled : a ∈ c.labelled label value ↔
    (∃ name, c.get? name = some a) ∧ a.metadata.labelMap.get? label = some value := by
  simp only [labelled, List.mem_filter, decide_eq_true_eq, List.mem_map, Prod.exists,
    exists_eq_right]
  refine and_congr_left fun _ => exists_congr fun name => ?_
  exact ⟨SortedMap.get?_of_mem, SortedMap.mem_toList_of_get?⟩

/-- The objects on a shelf have different names. -/
theorem nodup_labelled_names : ((c.labelled label value).map (·.metadata.anyName)).Nodup := by
  have hnames : (c.objects.toList.map Prod.snd).map (·.metadata.anyName) = c.objects.keys := by
    rw [List.map_map]
    refine List.map_congr_left ?_
    intro e he
    exact anyName_of_get? (SortedMap.get?_of_mem he)
  have hsublist : ((c.labelled label value).map (·.metadata.anyName)).Sublist c.objects.keys :=
    hnames ▸ List.filter_sublist.map _
  exact c.objects.nodup_keys.sublist hsublist

theorem isApplied_applied : (c.applied r).IsApplied r := ⟨rfl, rfl⟩

/-- Applying an object again changes nothing. -/
theorem apply_of_isApplied (h : c.get? r.metadata.anyName = some a) (ha : a.IsApplied r) :
    c.apply r = c := by
  have happlied : c.applied r = a := by
    obtain ⟨metadata, spec, status⟩ := a
    obtain ⟨rfl, rfl⟩ := ha
    rw [applied, h]
    rfl
  refine eq_of_get?_eq ?_
  rw [get?_apply, happlied, ← h, Function.update_eq_self]

end Shelf

/-- All shelves of a server. -/
abbrev Shelves := (k : Kind) → String → Shelf k

namespace Shelves
variable {k k' : Kind} {c : Shelves} {inNamespace ns : String} {r : Resource k} {name : String}

/-- The shelves with one of them replaced. -/
def put (c : Shelves) (k : Kind) (inNamespace : String) (shelf : Shelf k) : Shelves :=
  Function.update c k (Function.update (c k) inNamespace shelf)

theorem put_self {shelf : Shelf k} : c.put k inNamespace shelf k inNamespace = shelf := by
  rw [put, Function.update_self, Function.update_self]

theorem put_of_kind_ne {shelf : Shelf k} (h : k' ≠ k) : c.put k inNamespace shelf k' = c k' :=
  Function.update_of_ne h ..

theorem put_of_namespace_ne {shelf : Shelf k} (h : ns ≠ inNamespace) :
    c.put k inNamespace shelf k ns = c k ns := by
  rw [put, Function.update_self, Function.update_of_ne h]

theorem put_eq_self : c.put k inNamespace (c k inNamespace) = c := by
  rw [put, Function.update_eq_self, Function.update_eq_self]

end Shelves

/-- A server with what becomes of its next requests: those with an error are refused. -/
@[ext]
structure ShelfServer where
  shelves : Shelves
  refusals : List (Option ApiError)

namespace ShelfServer
variable {α : Type}

/-- Answers a request, unless it is to be refused. -/
def serve (answer : Shelves → Except ApiError α × Shelves) :
    StateM ShelfServer (Except ApiError α) := fun s =>
  let served (rest : List (Option ApiError)) :=
    ((answer s.shelves).1, (⟨(answer s.shelves).2, rest⟩ : ShelfServer))
  match s.refusals with
  | some e :: rest => (.error e, ⟨s.shelves, rest⟩)
  | none :: rest => served rest
  | [] => served []

/-- What the synchronization gets to see of the server. -/
def api : GeneratedObjects (StateM ShelfServer) where
  apply k inNamespace r := serve fun c =>
    (.ok (), c.put k inNamespace ((c k inNamespace).apply r))
  generatedFrom k inNamespace name := serve fun c =>
    (.ok ((c k inNamespace).labelled PrometheusRule.sourceLabel name), c)
  delete k inNamespace name := serve fun c =>
    if ((c k inNamespace).get? name).isSome then
      (.ok (), c.put k inNamespace ((c k inNamespace).erase name))
    else (.error (.status 404 "NotFound"), c)

end ShelfServer

end ResourceSync
