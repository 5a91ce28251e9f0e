import Mathlib.Tactic.SplitIfs
import ResourceSync.Proofs.Stable

/-! What a pass can do to the objects and the entities while calls fail and nobody interferes, as
one list of effects. -/
namespace ResourceSync

variable {k : Kind}

namespace Kind
variable {id : String}

theorem recordedId_ne_empty {status : k.Status} (h : k.recordedId status = some id) : id ≠ "" := by
  have hid {o : Option String} (ho : recordedId.nonempty o = some id) : id ≠ "" := by
    simpa using (Option.filter_eq_some_iff.1 ho).2
  cases k <;> exact hid h

theorem recordedId_statusWithId (h : id ≠ "") : k.recordedId (k.statusWithId id) = some id := by
  have hid : recordedId.nonempty (some id) = some id := by simp [recordedId.nonempty, h]
  cases k <;> exact hid

theorem recordedId_observedStatus {e : Entity k.Body} (h : e.id ≠ "") :
    k.recordedId (k.observedStatus e) = some e.id := by
  have hid : recordedId.nonempty (some e.id) = some e.id := by simp [recordedId.nonempty, h]
  cases k <;> exact hid

end Kind

namespace Resource
variable {r r' r'' : Resource k}

/-- A later version differs from an earlier one in version, finalizers and status at most. -/
structure IsVersionOf (r' r : Resource k) : Prop where
  spec : r'.spec = r.spec
  metadata : r'.metadata =
    { r.metadata with
      resourceVersion := r'.metadata.resourceVersion, finalizers := r'.metadata.finalizers }

namespace IsVersionOf

theorem refl (r : Resource k) : r.IsVersionOf r := ⟨rfl, rfl⟩

theorem trans (h₂ : r''.IsVersionOf r') (h₁ : r'.IsVersionOf r) : r''.IsVersionOf r := by
  refine ⟨h₂.spec.trans h₁.spec, ?_⟩
  rw [h₂.metadata, h₁.metadata]

theorem key (h : r'.IsVersionOf r) : r'.key = r.key := by
  simp only [Resource.key]
  rw [h.metadata]
  rfl

theorem isDeleting (h : r'.IsVersionOf r) : r'.metadata.isDeleting = r.metadata.isDeleting := by
  rw [h.metadata]
  rfl

theorem labelMap (h : r'.IsVersionOf r) : r'.metadata.labelMap = r.metadata.labelMap := by
  rw [h.metadata]
  rfl

theorem desiredBody (h : r'.IsVersionOf r) : r'.desiredBody = r.desiredBody := by
  simp only [Resource.desiredBody, h.spec]

theorem stamped (s : Store k) (r : Resource k) (status : Option k.Status) :
    (s.stamped { r with status := status }).IsVersionOf r := ⟨rfl, rfl⟩

end IsVersionOf

theorem remoteId_eq_of_status (h : r'.status = r.status) : r'.remoteId = r.remoteId := by
  simp only [remoteId, h]

theorem hasFinalizer_of_ensured {finalizer : String}
    (h : r'.metadata.finalizerList = if r.hasFinalizer finalizer then r.metadata.finalizerList
      else r.metadata.finalizerList ++ [finalizer]) : r'.hasFinalizer finalizer = true := by
  rw [hasFinalizer, h]
  split
  · next hfin => exact hfin
  · simp

theorem finalizerList_eq_of_finalizers (h : r'.metadata.finalizers = r.metadata.finalizers) :
    r'.metadata.finalizerList = r.metadata.finalizerList := by
  simp only [Metadata.finalizerList, h]

theorem hasFinalizer_eq_of_finalizers {finalizer : String}
    (h : r'.metadata.finalizers = r.metadata.finalizers) :
    r'.hasFinalizer finalizer = r.hasFinalizer finalizer := by
  simp only [hasFinalizer, finalizerList_eq_of_finalizers h]

/-- The finalizers of everyone else, in order. -/
def otherFinalizers (r : Resource k) (finalizer : String) : List String :=
  r.metadata.finalizerList.filter fun f => f ≠ finalizer

theorem otherFinalizers_eq_of_finalizers {finalizer : String}
    (h : r'.metadata.finalizers = r.metadata.finalizers) :
    r'.otherFinalizers finalizer = r.otherFinalizers finalizer := by
  simp only [otherFinalizers, finalizerList_eq_of_finalizers h]

theorem remoteId_ne_empty {id : String} (h : r.remoteId = some id) : id ≠ "" := by
  obtain ⟨status, -, hid⟩ := Option.bind_eq_some_iff.1 h
  exact Kind.recordedId_ne_empty hid

theorem remoteId_of_observedStatus {e : Entity k.Body} (he : e.id ≠ "")
    (h : r.status = some (k.observedStatus e)) : r.remoteId = some e.id := by
  simp only [remoteId, h, Option.bind_some, Kind.recordedId_observedStatus he]

/-- The identifier of the entity, if the creation gets as far as one, fails to record it and fails
to delete it again. -/
def leak? (r : Resource k) (w : World k) : Option String :=
  match r.desiredBody with
  | .error _ => none
  | .ok b =>
    match World.createEntity b w with
    | .error _ _ => none
    | .ok id w₁ =>
      match World.writeStatus r (some (k.statusWithId id))
        { w₁ with metrics := w₁.metrics.recordOperation k.name Operation.create.name } with
      | .ok _ _ => none
      | .error _ w₂ =>
        match World.deleteEntity id w₂ with
        | .ok _ _ => none
        | .error _ _ => some id

end Resource

namespace Store
variable {s : Store k} {r r' : Resource k} {finalizers : List String}

theorem refinalized_eq_none_iff :
    s.refinalized r finalizers = none ↔ r.metadata.isDeleting ∧ finalizers = [] := by
  simp [refinalized]

theorem refinalized_eq_some (h : s.refinalized r finalizers = some r') :
    r'.IsVersionOf r ∧ r'.status = r.status ∧ r'.metadata.finalizers = some finalizers := by
  unfold refinalized at h
  split at h
  · exact absurd h (by simp)
  · obtain rfl := Option.some.inj h
    exact ⟨⟨rfl, rfl⟩, rfl, rfl⟩

/-- What the stored object becomes when a finalizer is taken off it. -/
def released (s : Store k) (r : Resource k) (finalizer : String) : Option (Resource k) :=
  if r.hasFinalizer finalizer then s.refinalized r (r.otherFinalizers finalizer) else some r

theorem released_eq_none_iff {finalizer : String} : s.released r finalizer = none ↔
    r.hasFinalizer finalizer = true ∧ r.metadata.isDeleting = true ∧
      r.otherFinalizers finalizer = [] := by
  unfold released
  split
  · next hfin => simp only [refinalized_eq_none_iff, hfin, true_and]
  · next hfin => simp [hfin]

theorem released_eq_some {finalizer : String} (h : s.released r finalizer = some r') :
    r'.IsVersionOf r ∧ r'.status = r.status ∧ r'.hasFinalizer finalizer = false := by
  unfold released at h
  split at h
  · obtain ⟨hversion, hstatus, hfin⟩ := refinalized_eq_some h
    refine ⟨hversion, hstatus, ?_⟩
    simp [Resource.hasFinalizer, Metadata.finalizerList, hfin, Resource.otherFinalizers]
  · next hfin =>
    obtain rfl := Option.some.inj h
    exact ⟨.refl r, rfl, by simpa using hfin⟩

end Store

namespace Engine
variable {g : Engine k} {r : Resource k}

theorem lifecycle_eq_pendingCreation_iff :
    g.lifecycle r = .pendingCreation ↔ r.remoteId = none ∧ g.inScope r = true := by
  unfold lifecycle
  split_ifs <;> simp_all

theorem lifecycle_eq_pendingDeletion_iff :
    g.lifecycle r = .pendingDeletion ↔
      r.metadata.isDeleting = true ∧ (r.remoteId = none → g.inScope r = false) := by
  unfold lifecycle
  split_ifs <;> simp_all

theorem lifecycle_eq_outOfScope_iff :
    g.lifecycle r = .outOfScope ↔ r.metadata.isDeleting = false ∧ g.inScope r = false := by
  unfold lifecycle
  split_ifs <;> simp_all

theorem lifecycle_eq_active_iff :
    g.lifecycle r = .active ↔
      r.remoteId ≠ none ∧ r.metadata.isDeleting = false ∧ g.inScope r = true := by
  unfold lifecycle
  split_ifs <;> simp_all

/-- The identifier of the entity, if the pass creates one that it can neither record nor delete
again. -/
def leak? (g : Engine k) (key : ObjectKey) (w : World k) : Option String :=
  match World.load key w with
  | .ok (some r) w₀ => if g.lifecycle r = .pendingCreation then r.leak? w₀ else none
  | _ => none

end Engine

/-- The entity of `r` exists under a new identifier, and `r'` is `r` with that recorded. -/
structure Recorded (w w' : World k) (key : ObjectKey) (r r' : Resource k) : Prop where
  version : r'.IsVersionOf r
  status : r'.status = some (k.statusWithId w.platform.nextId) ∨
    ∃ b, r'.status = some (k.observedStatus (Platform.newborn w.platform.nextId b))
  objects : w'.store.get? = Function.update w.store.get? key (some r')
  entities : ∃ b, w'.platform.entity? = Function.update w.platform.entity? w.platform.nextId
    (some (Platform.newborn w.platform.nextId b))

theorem Recorded.remoteId {w w' : World k} {key : ObjectKey} {r r' : Resource k}
    (h : Recorded w w' key r r') (hid : w.platform.nextId ≠ "") :
    r'.remoteId = some w.platform.nextId := by
  rcases h.status with hstatus | ⟨b, hstatus⟩
  · simp only [Resource.remoteId, hstatus, Option.bind_some, Kind.recordedId_statusWithId hid]
  · exact Resource.remoteId_of_observedStatus hid hstatus

/-- What follows a recording may give the object another version, but not another status. -/
theorem Recorded.next {w₀ w w₁ w₂ : World k} {key : ObjectKey} {r r' r'' : Resource k}
    (h : Recorded w w₁ key r r') (hs : w.store = w₀.store) (hp : w.platform = w₀.platform)
    (hversion : r''.IsVersionOf r') (hstatus : r''.status = r'.status)
    (ho : w₂.store.get? = Function.update w₁.store.get? key (some r''))
    (he : w₂.platform.entity? = w₁.platform.entity?) : Recorded w₀ w₂ key r r'' := by
  obtain ⟨hversion₁, hstatus₁, ho₁, b, he₁⟩ := h
  rw [hs] at ho₁
  rw [hp] at hstatus₁ he₁
  refine ⟨hversion.trans hversion₁, hstatus ▸ hstatus₁, ?_, b, he.trans he₁⟩
  rw [ho, ho₁, Function.update_idem]

theorem Recorded.same {w₀ w w₁ w₂ : World k} {key : ObjectKey} {r r' : Resource k}
    (h : Recorded w w₁ key r r') (hs : w.store = w₀.store) (hp : w.platform = w₀.platform)
    (ho : w₂.store.get? = w₁.store.get?) (he : w₂.platform.entity? = w₁.platform.entity?) :
    Recorded w₀ w₂ key r r' := by
  refine h.next hs hp (.refl r') rfl ?_ he
  rw [ho, h.objects, Function.update_idem]

/-- What a pass on the object under a key can do. The flag says whether the pass succeeds. -/
inductive Effect (g : Engine k) (key : ObjectKey) (w w' : World k) : Bool → Prop where
  | idle {ok} (objects : w'.store.get? = w.store.get?)
      (entities : w'.platform.entity? = w.platform.entity?) : Effect g key w w' ok
  /-- An entity was created and, as it could not be recorded, deleted again. -/
  | undone {r} (loaded : w.store.get? key = some r) (due : g.lifecycle r = .pendingCreation)
      (objects : w'.store.get? = w.store.get?)
      (entities : w'.platform.entity? =
        Function.update w.platform.entity? w.platform.nextId none) : Effect g key w w' false
  | leaked {r e} (loaded : w.store.get? key = some r) (due : g.lifecycle r = .pendingCreation)
      (leak : g.leak? key w = some w.platform.nextId)
      (objects : w'.store.get? = w.store.get?)
      (entities : w'.platform.entity? =
        Function.update w.platform.entity? w.platform.nextId (some e)) : Effect g key w w' false
  /-- The creation stopped between the recording and the finalizer. -/
  | cut {r r'} (loaded : w.store.get? key = some r) (due : g.lifecycle r = .pendingCreation)
      (recorded : Recorded w w' key r r')
      (finalizers : r'.metadata.finalizers = r.metadata.finalizers) : Effect g key w w' false
  | created {r r'} (loaded : w.store.get? key = some r) (due : g.lifecycle r = .pendingCreation)
      (recorded : Recorded w w' key r r')
      (finalizers : r'.metadata.finalizerList =
        if r.hasFinalizer k.finalizer then r.metadata.finalizerList
        else r.metadata.finalizerList ++ [k.finalizer]) : Effect g key w w' true
  /-- The platform has lost the entity, and the status is cleared. -/
  | forgotten {r r' id} (loaded : w.store.get? key = some r) (due : g.lifecycle r = .active)
      (recorded : r.remoteId = some id) (gone : w.platform.entity? id = none)
      (version : r'.IsVersionOf r) (status : r'.status = none)
      (finalizers : r'.metadata.finalizers = r.metadata.finalizers)
      (objects : w'.store.get? = Function.update w.store.get? key (some r'))
      (entities : w'.platform.entity? = w.platform.entity?) : Effect g key w w' false
  | updated {r id e e' ok} (loaded : w.store.get? key = some r) (due : g.lifecycle r = .active)
      (recorded : r.remoteId = some id) (held : w.platform.entity? id = some e)
      (same : e'.id = e.id)
      (objects : w'.store.get? = w.store.get? ∨ ∃ r' : Resource k, r'.IsVersionOf r ∧
        r'.status = some (k.observedStatus e') ∧
        r'.metadata.finalizers = r.metadata.finalizers ∧
        w'.store.get? = Function.update w.store.get? key (some r'))
      (entities : w'.platform.entity? = Function.update w.platform.entity? id (some e')) :
      Effect g key w w' ok
  | tornDown {r ok} (loaded : w.store.get? key = some r)
      (due : g.lifecycle r = .pendingDeletion ∨ g.lifecycle r = .outOfScope)
      (objects : w'.store.get? = w.store.get?)
      (entities : ∀ id, w'.platform.entity? id =
        if r.remoteId = some id then none else w.platform.entity? id) : Effect g key w w' ok
  | released {r stored} (loaded : w.store.get? key = some r)
      (due : g.lifecycle r = .pendingDeletion) (guarded : r.hasFinalizer k.finalizer = true)
      (place : w.store.get? r.key = some stored)
      (objects : w'.store.get? = Function.update w.store.get? r.key
        (w.store.refinalized stored (r.metadata.finalizerList.filter fun f => f ≠ k.finalizer)))
      (entities : ∀ id, w'.platform.entity? id =
        if r.remoteId = some id then none else w.platform.entity? id) : Effect g key w w' true

/-- Metrics and events are no part of an effect. -/
theorem Effect.carried {g : Engine k} {key : ObjectKey} {w w₁ w₂ : World k} {ok : Bool}
    (h : Effect g key w w₁ ok) (hs : w₂.store = w₁.store) (hp : w₂.platform = w₁.platform) :
    Effect g key w w₂ ok := by
  cases h with
  | idle ho he => exact .idle (hs ▸ ho) (hp ▸ he)
  | undone hr due ho he => exact .undone hr due (hs ▸ ho) (hp ▸ he)
  | leaked hr due leak ho he => exact .leaked hr due leak (hs ▸ ho) (hp ▸ he)
  | cut hr due hrec hfin =>
    exact .cut hr due (hrec.same rfl rfl (congrArg _ hs) (congrArg _ hp)) hfin
  | created hr due hrec hfin =>
    exact .created hr due (hrec.same rfl rfl (congrArg _ hs) (congrArg _ hp)) hfin
  | forgotten hr due hid hgone hversion hstatus hfin ho he =>
    exact .forgotten hr due hid hgone hversion hstatus hfin (hs ▸ ho) (hp ▸ he)
  | updated hr due hid hheld hsame ho he =>
    exact .updated hr due hid hheld hsame (hs ▸ ho) (hp ▸ he)
  | tornDown hr due ho he => exact .tornDown hr due (hs ▸ ho) (hp ▸ he)
  | released hr due hfin hplace ho he =>
    exact .released hr due hfin hplace (hs ▸ ho) (hp ▸ he)

/-- A pass makes no object, and of an object that it leaves it makes a later version. -/
theorem Effect.versions {g : Engine k} {key key' : ObjectKey} {w w' : World k} {ok : Bool}
    {r' : Resource k} (h : Effect g key w w' ok) (hr' : w'.store.get? key' = some r') :
    ∃ r, w.store.get? key' = some r ∧ r'.IsVersionOf r := by
  have hsame (ho : w'.store.get? = w.store.get?) :
      ∃ r, w.store.get? key' = some r ∧ r'.IsVersionOf r := ⟨r', ho ▸ hr', .refl r'⟩
  have hput {place : ObjectKey} {r r₁ : Resource k} (hr : w.store.get? place = some r)
      (hversion : r₁.IsVersionOf r)
      (ho : w'.store.get? = Function.update w.store.get? place (some r₁)) :
      ∃ r, w.store.get? key' = some r ∧ r'.IsVersionOf r := by
    rw [ho, Function.update_apply] at hr'
    split at hr'
    · next heq =>
      subst heq
      obtain rfl := Option.some.inj hr'
      exact ⟨r, hr, hversion⟩
    · exact ⟨r', hr', .refl r'⟩
  cases h with
  | idle ho _ | undone _ _ ho _ | leaked _ _ _ ho _ | tornDown _ _ ho _ => exact hsame ho
  | cut hr _ hrec _ | created hr _ hrec _ => exact hput hr hrec.version hrec.objects
  | forgotten hr _ _ _ hversion _ _ ho _ => exact hput hr hversion ho
  | updated hr _ _ _ _ ho _ =>
    rcases ho with ho | ⟨_, hversion, -, -, ho⟩
    · exact hsame ho
    · exact hput hr hversion ho
  | @released r stored _ _ _ hplace ho _ =>
    cases hfin : w.store.refinalized stored
        (r.metadata.finalizerList.filter fun f => f ≠ k.finalizer) with
    | some r₁ => exact hput hplace (Store.refinalized_eq_some hfin).1 (hfin ▸ ho)
    | none =>
      rw [ho, hfin, Function.update_apply] at hr'
      split at hr'
      · cases hr'
      · exact ⟨r', hr', .refl r'⟩

end ResourceSync
