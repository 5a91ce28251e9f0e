import ResourceSync.Proofs.Effect
import ResourceSync.Proofs.Counting

/-! While nothing fails, a pass depends on three things: the object, the entity that it records and
the next identifier. What it does is worked out from them without a world. -/
namespace ResourceSync

variable {k : Kind}

namespace Resource

/-- The object under another version. -/
def versioned (v : Option String) (r : Resource k) : Resource k :=
  { r with metadata := { r.metadata with resourceVersion := v } }

/-- The object once an entity was seen. -/
def observing (r : Resource k) (e : Entity k.Body) : Resource k :=
  { r with status := some (k.observedStatus e) }

theorem IsVersionOf.versioned (r : Resource k) (v : Option String) :
    (r.versioned v).IsVersionOf r := ⟨rfl, rfl⟩

theorem IsVersionOf.observing (r : Resource k) (e : Entity k.Body) :
    (r.observing e).IsVersionOf r := ⟨rfl, rfl⟩

/-- The object under other finalizers. A marked object without finalizers vanishes. -/
def refinalized (r : Resource k) (finalizers : List String) : Option (Resource k) :=
  if r.metadata.isDeleting && finalizers.isEmpty then none
  else some { r with metadata := { r.metadata with finalizers := some finalizers } }

/-- The object with the operator's finalizer. -/
def guarded (r : Resource k) : Option (Resource k) :=
  if r.hasFinalizer k.finalizer then some r
  else r.refinalized (r.metadata.finalizerList ++ [k.finalizer])

theorem guarded_eq_some (r : Resource k) : ∃ r', r.guarded = some r' ∧ r'.IsVersionOf r ∧
    r'.status = r.status ∧ r'.metadata.finalizerList =
      if r.hasFinalizer k.finalizer then r.metadata.finalizerList
      else r.metadata.finalizerList ++ [k.finalizer] := by
  unfold guarded
  split
  · exact ⟨r, rfl, .refl r, rfl, rfl⟩
  · exact ⟨_, if_neg (by simp), ⟨rfl, rfl⟩, rfl, rfl⟩

/-- The object without the operator's finalizer. -/
def freed (r : Resource k) : Option (Resource k) :=
  if r.hasFinalizer k.finalizer then r.refinalized (r.otherFinalizers k.finalizer) else some r

end Resource

/-- What a pass has done so far. The version of the object is left open. -/
structure Course (k : Kind) where
  object : Option (Resource k)
  /-- The one identifier whose entity is touched, and what becomes of the entity. -/
  entity : Option (String × Option (Entity k.Body))
  /-- Whether an identifier was taken for a new entity. -/
  creates : Bool
  notes : List Note
  events : List Event

namespace Course

def start (o : Option (Resource k)) : Course k := ⟨o, none, false, [], []⟩

def becoming (c : Course k) (o : Option (Resource k)) : Course k := { c with object := o }

def noted (c : Course k) (n : Note) : Course k := { c with notes := c.notes ++ [n] }

def told (c : Course k) (severity : Severity) (reason : Reason) (message : String) : Course k :=
  { c with events := c.events ++ [⟨severity, reason, message⟩] }

def changed (c : Course k) (id : String) (o : Option (Entity k.Body)) : Course k :=
  { c with entity := some (id, o) }

def made (c : Course k) (e : Entity k.Body) : Course k :=
  { c.changed e.id (some e) with creates := true }

def observed (c : Course k) (r : Resource k) (e : Entity k.Body) : Course k :=
  (c.becoming (some (r.observing e))).noted (.stands r.key (some r.typeLabel))

/-- The entity is deleted, if one was ever recorded. -/
def tornDown (c : Course k) (r : Resource k) (held : Option (Entity k.Body)) : Course k :=
  match r.remoteId with
  | none => c
  | some id =>
    let c := if held.isSome then (c.changed id none).noted (.operation .delete) else c
    c.noted (.stands r.key none)

theorem becoming_self {c : Course k} {o : Option (Resource k)} (h : c.object = o) :
    c.becoming o = c := by subst h; rfl

theorem object_tornDown (c : Course k) (r : Resource k) (held : Option (Entity k.Body)) :
    (c.tornDown r held).object = c.object := by
  unfold tornDown
  split
  · rfl
  · cases held <;> rfl

/-- The entities after the pass. -/
def entities (c : Course k) (held : String → Option (Entity k.Body)) :
    String → Option (Entity k.Body) :=
  match c.entity with
  | none => held
  | some (id, o) => Function.update held id o

end Course

namespace Engine

/-- When the next pass on an object in step is due. -/
def nextPass (g : Engine k) : NextPass :=
  match g.successRequeue with
  | none => .onChange
  | some d => .after d

/-- The course on an object that has no entity yet: the identifier is recorded before the finalizer is
added. -/
def creation (r : Resource k) (new : String) : Except Failure NextPass × Course k :=
  match r.desiredBody with
  | .error e =>
    let f := Failure.ofCause (.invalidSpec e.message)
    (.error (f.within s!"failed to create {k.name} {r.key.text}"), .start r)
  | .ok b =>
    let e := Platform.newborn new b
    let c := (((Course.start r).made e).noted (.operation .create)).observed r e
    let id := (r.observing e).remoteId.getD ""
    (.ok .onChange, (c.becoming (r.observing e).guarded).told .normal .created
      s!"Created remote entity {id}")

/-- The course on a marked object. Its entity goes first, then the finalizer. -/
def deletion (r : Resource k) (held : Option (Entity k.Body)) :
    Except Failure NextPass × Course k :=
  (.ok .onChange, (((Course.start r).tornDown r held).becoming r.freed).told .normal .deleted
    "Deleted remote entity")

/-- The course on an object that the selector leaves out. The object itself stays as it is. -/
def withdrawal (r : Resource k) (held : Option (Entity k.Body)) :
    Except Failure NextPass × Course k :=
  (.ok .onChange,
    if r.remoteId.isSome then
      ((Course.start r).tornDown r held).told .normal .outOfScope
        "Labels no longer match the selector, remote entity deleted"
    else .start r)

/-- The course on an object in step. A lost entity is forgotten, so that the next pass makes another
one. -/
def update (g : Engine k) (r : Resource k) (held : Option (Entity k.Body)) :
    Except Failure NextPass × Course k :=
  let id := r.remoteId.getD ""
  let context := s!"failed to update {k.name} {r.key.text}"
  match held with
  | none =>
    let f := Failure.ofRemote (.notFound (Platform.entityPath id))
    let c := (Course.start r).told .warning .remoteNotFound
      s!"Remote entity {id} not found, it will be recreated"
    (.error ((f.within s!"remote {k.name} {id} disappeared").within context),
      (c.becoming (some { r with status := none })).noted (.stands r.key none))
  | some e =>
    match r.desiredBody with
    | .error e => (.error ((Failure.ofCause (.invalidSpec e.message)).within context), .start r)
    | .ok b =>
      if k.inSync b e.body then (.ok g.nextPass, (Course.start r).observed r e)
      else
        let e' := Platform.renewed e b
        let c := (((Course.start r).changed id (some e')).noted (.operation .update)).told .normal
          .updated s!"Updated remote entity {id}"
        (.ok g.nextPass, c.observed r e')

/-- How a pass on a loaded object ends and what it has done by then, up to the note of its end. -/
def transitionCourse (g : Engine k) (r : Resource k) (held : Option (Entity k.Body))
    (new : String) : Except Failure NextPass × Course k :=
  match g.lifecycle r with
  | .pendingCreation => creation r new
  | .pendingDeletion => deletion r held
  | .outOfScope => withdrawal r held
  | .active => g.update r held

/-- The end of a pass is noted, and a failure is told. -/
def closed (elapsed : Duration) :
    Except Failure NextPass × Course k → Except Failure NextPass × Course k
  | (.ok next, c) => (.ok next, c.noted (.ended .success elapsed))
  | (.error f, c) => (.error f, (c.told .warning f.reason f.text).noted (.ended .error elapsed))

theorem creates_closed (elapsed : Duration) (x : Except Failure NextPass × Course k) :
    (closed elapsed x).2.creates = x.2.creates := by
  obtain ⟨_ | _, c⟩ := x <;> rfl

/-- How a pass ends and what it has done by then: `held` is the entity that the object records, and
`new` the next identifier. -/
def course (g : Engine k) (o : Option (Resource k)) (held : Option (Entity k.Body)) (new : String)
    (elapsed : Duration) : Except Failure NextPass × Course k :=
  match o with
  | none => (.ok .onChange, (Course.start none).noted (.ended .skipped elapsed))
  | some r => closed elapsed (g.transitionCourse r held new)

end Engine

namespace Course

theorem entities_of_ne {c : Course k} {id : String} (held : String → Option (Entity k.Body))
    (h : ∀ id' e, c.entity = some (id', e) → id' ≠ id) : c.entities held id = held id := by
  unfold entities
  cases heq : c.entity with
  | none => rfl
  | some touched => exact Function.update_of_ne (h _ _ heq).symm _ _

theorem entities_comm {c c' : Course k} (held : String → Option (Entity k.Body))
    (h : ∀ id e id' e', c.entity = some (id, e) → c'.entity = some (id', e') → id ≠ id') :
    c.entities (c'.entities held) = c'.entities (c.entities held) := by
  unfold entities
  cases heq : c.entity with
  | none => rfl
  | some touched =>
    cases heq' : c'.entity with
    | none => rfl
    | some touched' => exact (Function.update_comm (h _ _ _ _ heq heq') _ _ _).symm

/-- Nothing is noted about another object, and no entity is touched but the recorded one and one
that is created. -/
structure Local (o : Option (Resource k)) (new : String) (c : Course k) : Prop where
  notes : ∀ n ∈ c.notes, ∀ key, n.key? = some key → o.map Resource.key = some key
  entity : ∀ id e, c.entity = some (id, e) →
    o.bind Resource.remoteId = some id ∨ c.creates = true ∧ id = new

namespace Local
variable {c : Course k} {o : Option (Resource k)} {r : Resource k} {new : String}
  {held : Option (Entity k.Body)}

theorem start (o o' : Option (Resource k)) (new : String) : Local o new (start o') where
  notes _ h := (List.not_mem_nil h).elim
  entity _ _ h := nomatch h

theorem becoming (h : Local o new c) (o' : Option (Resource k)) : Local o new (c.becoming o') :=
  ⟨h.notes, h.entity⟩

theorem told (h : Local o new c) (severity : Severity) (reason : Reason) (message : String) :
    Local o new (c.told severity reason message) := ⟨h.notes, h.entity⟩

theorem noted {n : Note} (h : Local o new c)
    (hn : ∀ key, n.key? = some key → o.map Resource.key = some key) : Local o new (c.noted n) where
  notes n' hn' := by
    rcases List.mem_append.1 hn' with hold | hlast
    · exact h.notes n' hold
    · exact List.mem_singleton.1 hlast ▸ hn
  entity := h.entity

theorem noted_operation (h : Local o new c) (operation : Operation) :
    Local o new (c.noted (.operation operation)) := h.noted (by simp [Note.key?])

theorem noted_ended (h : Local o new c) (outcome : Outcome) (elapsed : Duration) :
    Local o new (c.noted (.ended outcome elapsed)) := h.noted (by simp [Note.key?])

theorem noted_stands (h : Local (some r) new c) (type : Option String) :
    Local (some r) new (c.noted (.stands r.key type)) := h.noted (by simp [Note.key?])

theorem observed (h : Local (some r) new c) (e : Entity k.Body) :
    Local (some r) new (c.observed r e) := (h.becoming _).noted_stands _

theorem changed {id : String} (h : Local (some r) new c) (hid : r.remoteId = some id)
    (e : Option (Entity k.Body)) : Local (some r) new (c.changed id e) where
  notes := h.notes
  entity _ _ heq := by
    cases heq
    exact Or.inl hid

theorem made {e : Entity k.Body} (h : Local o new c) (he : e.id = new) :
    Local o new (c.made e) where
  notes := h.notes
  entity _ _ heq := by
    cases heq
    exact Or.inr ⟨rfl, he⟩

theorem tornDown (h : Local (some r) new c) : Local (some r) new (c.tornDown r held) := by
  unfold Course.tornDown
  split
  · exact h
  · next id hid =>
    cases held with
    | none => exact h.noted_stands _
    | some e => exact ((h.changed hid _).noted_operation _).noted_stands _

end Local
end Course

namespace Engine
variable {g : Engine k} {r : Resource k} {held : Option (Entity k.Body)} {new : String}

theorem creation_local : (creation r new).2.Local (some r) new := by
  unfold creation
  cases r.desiredBody with
  | error e => exact .start _ _ _
  | ok b =>
    have hmade := (Course.Local.start (some r) (some r) new).made (e := Platform.newborn new b) rfl
    exact (((hmade.noted_operation _).observed _).becoming _).told _ _ _

theorem update_local (hid : r.remoteId ≠ none) : (g.update r held).2.Local (some r) new := by
  obtain ⟨id, hid⟩ := Option.ne_none_iff_exists'.1 hid
  have h₀ := Course.Local.start (some r) (some r) new
  unfold update
  simp only [hid, Option.getD_some]
  cases held with
  | none => exact ((h₀.told _ _ _).becoming _).noted_stands _
  | some e =>
    cases r.desiredBody with
    | error e => exact h₀
    | ok b =>
      dsimp only
      split
      · exact h₀.observed _
      · exact (((h₀.changed hid _).noted_operation _).told _ _ _).observed _

theorem closed_local {x : Except Failure NextPass × Course k} {o : Option (Resource k)}
    (elapsed : Duration) (h : x.2.Local o new) : (closed elapsed x).2.Local o new := by
  obtain ⟨_ | _, c⟩ := x
  · exact (h.told _ _ _).noted_ended _ _
  · exact h.noted_ended _ _

/-- Whether a pass creates an entity does not depend on the next identifier. -/
theorem creates_course {new' : String} (o : Option (Resource k)) (elapsed : Duration) :
    (g.course o held new elapsed).2.creates = (g.course o held new' elapsed).2.creates := by
  cases o with
  | none => rfl
  | some r =>
    rw [course, course, creates_closed, creates_closed]
    unfold transitionCourse
    split
    · unfold creation
      cases r.desiredBody <;> rfl
    all_goals rfl

/-- A pass keeps to its object and its entity. -/
theorem course_local (g : Engine k) (o : Option (Resource k)) (held : Option (Entity k.Body))
    (new : String) (elapsed : Duration) : (g.course o held new elapsed).2.Local o new := by
  cases o with
  | none => exact (Course.Local.start _ _ _).noted_ended _ _
  | some r =>
    have h₀ := Course.Local.start (some r) (some r) new
    have htransition : (g.transitionCourse r held new).2.Local (some r) new := by
      unfold transitionCourse
      cases due : g.lifecycle r with
      | pendingCreation => exact creation_local
      | pendingDeletion => exact (h₀.tornDown.becoming _).told _ _ _
      | outOfScope =>
        simp only [withdrawal]
        split
        · exact h₀.tornDown.told _ _ _
        · exact h₀
      | active => exact update_local (lifecycle_eq_active_iff.1 due).1
    exact closed_local elapsed htransition

end Engine

end ResourceSync
