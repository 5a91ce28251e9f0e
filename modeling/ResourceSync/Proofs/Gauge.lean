import ResourceSync.Proofs.Passes
import ResourceSync.Proofs.Recording
import ResourceSync.Proofs.Tally

/-! What the metrics tell of where resources stand. After a pass that succeeds they tell the truth
about the resource of its key; after one that fails a resource that stands there still records an
identifier. -/
namespace ResourceSync

variable {k : Kind}

open World

namespace Metrics
variable {m m' : Metrics}

/-- The type under which the resource of a key stands. -/
def standing (m : Metrics) (k : Kind) (key : ObjectKey) : Option String :=
  m.types.get? (labels k.name key)

/-- Of a resource there is one series, under the type that it stands under, or none. -/
def Consistent (k : Kind) (m : Metrics) : Prop :=
  ∀ key type, m.resources.get? (labels k.name key ++ [type]) =
    if m.standing k key = some type then some 1 else none

theorem standing_note_stands (m : Metrics) (k : Kind) (key : ObjectKey) (type : Option String) :
    (m.note k.name (.stands key type)).standing k = Function.update (m.standing k) key type := by
  funext key'
  simp only [standing, types_note_stands, Function.update_apply, (labels_injective k.name).eq_iff]

theorem consistent_empty (k : Kind) : Consistent k .empty := fun _ _ => rfl

theorem Consistent.sameOf (h : Consistent k m) (hm : SameOf k m m') : Consistent k m' := by
  intro key type
  have hold := h key type
  rw [standing, labels] at hold ⊢
  rw [hm.types, ← hold]
  exact hm.resources _

theorem Consistent.stands (h : Consistent k m) (key : ObjectKey) (type : Option String) :
    Consistent k (m.note k.name (.stands key type)) := by
  intro key' type'
  have hold := h key' type'
  have hlast : m.types.get? (labels k.name key) = m.standing k key := rfl
  simp only [resources_note_stands, restated, standing_note_stands, Function.update_apply,
    map_labels_eq_iff, true_and, hlast, hold]
  by_cases heq : key' = key
  · subst heq
    simp only [true_and, if_true]
    split
    · rfl
    · split <;> rfl
  · simp only [heq, false_and, if_false]

theorem Consistent.note (h : Consistent k m) (n : Note) : Consistent k (m.note k.name n) := by
  cases n with
  | operation | ended => exact h
  | stands key type => exact h.stands key type

end Metrics

namespace World
variable {w w' : World k} {key key' : ObjectKey} {r : Resource k} {id type : String}

def standing (w : World k) : ObjectKey → Option String := w.metrics.standing k

/-- The object of a key, whose spec is of this type, records an entity that the platform holds. -/
def InStep (w : World k) (key : ObjectKey) (type : String) : Prop :=
  ∃ r id, w.store.get? key = some r ∧ r.remoteId = some id ∧ w.Holds id ∧ r.typeLabel = type

/-- The metrics tell the truth about the resource of a key. -/
def Tells (w : World k) (key : ObjectKey) : Prop :=
  ∀ type, w.standing key = some type ↔ w.InStep key type

/-- Where a resource stands, an object records an identifier. -/
def Backed (w : World k) (key : ObjectKey) : Prop :=
  w.standing key ≠ none → ∃ id, w.idAt key = some (some id)

theorem Backed.standing_eq_none (h : w.Backed key) (hid : ∀ id, w.idAt key ≠ some (some id)) :
    w.standing key = none := by
  by_contra hstands
  obtain ⟨id, hsome⟩ := h hstands
  exact hid id hsome

theorem backed_of_none (h : w.standing key = none) : w.Backed key := fun hstands =>
  absurd h hstands

theorem Backed.of_eq (h : w.Backed key) (ho : w'.idAt key = w.idAt key)
    (hs : w'.standing key = w.standing key) : w'.Backed key := by
  rw [Backed, ho, hs]
  exact h

theorem InStep.idAt (h : w.InStep key type) : ∃ id, w.idAt key = some (some id) := by
  obtain ⟨r, id, hr, hid, -, -⟩ := h
  exact ⟨id, by rw [idAt_of_get? hr, hid]⟩

theorem Tells.backed (h : w.Tells key) : w.Backed key := by
  intro hstands
  obtain ⟨type, htype⟩ := Option.ne_none_iff_exists'.1 hstands
  exact ((h type).1 htype).idAt

theorem InStep.tells (h : w.InStep key type) (hs : w.standing key = some type) : w.Tells key := by
  intro type'
  rw [hs]
  constructor
  · intro heq
    exact Option.some.inj heq ▸ h
  · rintro ⟨r', -, hr', -, -, rfl⟩
    obtain ⟨r, -, hr, -, -, rfl⟩ := h
    obtain rfl := Option.some.inj (hr.symm.trans hr')
    rfl

theorem tells_of_none (hs : w.standing key = none)
    (hgone : ∀ r id, w.store.get? key = some r → r.remoteId = some id → ¬ w.Holds id) :
    w.Tells key := by
  intro type
  rw [hs]
  constructor
  · intro h
    cases h
  · rintro ⟨r, id, hr, hid, hheld, -⟩
    exact absurd hheld (hgone r id hr hid)

/-- What an object records and what its entity is may become something else, if only it is found
again. -/
theorem InStep.next (h : w.InStep key type) (he : ∀ id, w.Holds id → w'.Holds id)
    (ho : ∀ r, w.store.get? key = some r → ∃ r' : Resource k, w'.store.get? key = some r' ∧
      r'.remoteId = r.remoteId ∧ r'.spec = r.spec) : w'.InStep key type := by
  obtain ⟨r, id, hr, hid, hheld, rfl⟩ := h
  obtain ⟨r', hr', hid', hspec⟩ := ho r hr
  exact ⟨r', id, hr', hid'.trans hid, he id hheld, congrArg k.typeLabel hspec⟩

section metrics

/-- The steps that a pass is made of leave what stands alone. -/
theorem steps_standing (P : (ObjectKey → Option String) → Prop) :
    CarriedBySteps fun w : World k => P w.standing :=
  steps_of_unaltered (J := fun m _ => P (m.standing k)) fun _ _ _ _ h => h

theorem counted_standing {α : Type} {o : Operation} {site : Site}
    {call : Platform k → Except RemoteError α × Platform k}
    (P : (ObjectKey → Option String) → Prop) :
    Carries (fun w : World k => P w.standing) (counted o (around site (onPlatform call))) := by
  intro w h
  refine ends_counted_call (J := fun m _ => P (m.standing k)) h ?_
  rcases call w.platform with ⟨_ | _, p⟩ <;> exact h

theorem ends_track_standing :
    Ends r.track w (fun _ w' => w'.standing =
      Function.update w.standing r.key (some r.typeLabel)) (fun _ _ => False) :=
  Metrics.standing_note_stands w.metrics k r.key (some r.typeLabel)

theorem ends_untrack_standing :
    Ends r.untrack w (fun _ w' => w'.standing = Function.update w.standing r.key none)
      (fun _ _ => False) :=
  Metrics.standing_note_stands w.metrics k r.key none

theorem createEntity_standing :
    Ends r.createEntity w
      (fun _ w' => w'.standing = Function.update w.standing r.key (some r.typeLabel))
      (fun _ w' => w'.standing = w.standing) := by
  refine (steps_standing (· = w.standing)).create rfl (fun b => ?_) (fun id => ?_) ?_
  · exact counted_standing (· = w.standing) w rfl
  · exact carries_uncounted_call (J := fun m _ => m.standing k = w.standing) fun _ _ h => h
  · intro w₁ h₁
    exact ends_track_standing.imp (fun _ _ h => h₁ ▸ h) fun _ _ h => h.elim

theorem deleteEntity_standing :
    Ends r.deleteEntity w
      (fun _ w' => if r.remoteId = none then w'.standing = w.standing
        else w'.standing = Function.update w.standing r.key none)
      (fun _ w' => w'.standing = w.standing) := by
  refine CarriedByRequests.delete (I := fun w' : World k => w'.standing = w.standing) rfl
    (fun id => counted_standing (· = w.standing) w rfl) ?_
  intro w₁ h₁
  exact ends_untrack_standing.imp (fun _ _ h => h₁ ▸ h) fun _ _ h => h.elim

theorem observe_standing {e : Entity k.Body} :
    Ends (if r.status ≠ some (k.observedStatus e) then do
        discard (World.writeStatus r (some (k.observedStatus e)))
        r.track
      else r.track) w
      (fun _ w' => w'.standing = Function.update w.standing r.key (some r.typeLabel))
      (fun _ w' => w'.standing = w.standing) := by
  refine (steps_standing (· = w.standing)).observe rfl ?_
  intro w₁ h₁
  exact ends_track_standing.imp (fun _ _ h => h₁ ▸ h) fun _ _ h => h.elim

end metrics

/-- Calls may fail but nobody interferes, objects and entities stand where they belong, and the next
identifier is not empty. -/
structure Steady (w : World k) : Prop where
  undisturbed : w.Undisturbed
  placed : w.store.Placed
  wellKeyed : w.platform.WellKeyed
  named : w.platform.nextId ≠ ""

section procedures

/-- The end of an update: an entity that is held is recorded, and the resource stands. -/
theorem observe_stands {w₀ : World k} {e : Entity k.Body} (hw : w.Undisturbed)
    (hstore : w.store = w₀.store) (hv : w₀.store.WritesBack) (hr : w₀.store.get? key = some r)
    (hid : r.remoteId = some e.id) (hheld : w.Holds e.id) :
    Ends (if r.status ≠ some (k.observedStatus e) then do
        discard (World.writeStatus r (some (k.observedStatus e)))
        r.track
      else r.track) w
      (fun _ w' => w'.InStep key r.typeLabel ∧
        w'.standing = Function.update w.standing r.key (some r.typeLabel))
      (fun _ w' => w'.store.get? = w₀.store.get? ∧ w'.standing = w.standing) := by
  refine ((observe_effect hw hstore hv hr).and observe_standing).imp ?_ ?_
  · rintro - w' ⟨⟨hp, ho⟩, hs⟩
    have hheld' : w'.Holds e.id := by
      rw [Holds, hp]
      exact hheld
    refine ⟨?_, hs⟩
    rcases ho with ho | ⟨r', hversion, hstatus, -, ho⟩
    · exact ⟨r, e.id, by rw [ho, hr], hid, hheld', rfl⟩
    · have hid' := Resource.remoteId_of_observedStatus (Resource.remoteId_ne_empty hid) hstatus
      exact ⟨r', e.id, by rw [ho, Function.update_self], hid', hheld',
        congrArg k.typeLabel hversion.spec⟩
  · rintro f w' ⟨⟨-, ho⟩, hs⟩
    exact ⟨ho, hs⟩

/-- An update leaves the resource standing and in step. If it fails it leaves everything as it was,
or the resource stands no longer. -/
theorem updateEntity_stands (hw : w.Undisturbed) (hv : w.store.WritesBack)
    (hp : w.platform.WellKeyed) (hr : w.store.get? key = some r) (hid : r.remoteId = some id) :
    Ends r.updateEntity w
      (fun _ w' => w'.InStep key r.typeLabel ∧
        w'.standing = Function.update w.standing r.key (some r.typeLabel))
      (fun _ w' => w'.store.get? = w.store.get? ∧ w'.standing = w.standing ∨
        w'.standing = Function.update w.standing r.key none) := by
  unfold Resource.updateEntity
  simp only [hid, Option.getD_some, ends_bind, ends_attempt]
  refine (getEntity_ends hw).imp ?_ ?_
  · rintro e w₁ ⟨hstep, hheld, he⟩
    have heid : e.id = id := hp id e hheld
    have hs₁ : w₁.standing = w.standing := congrArg (Metrics.standing · k) hstep.metrics
    rw [ends_pure]
    unfold Resource.body
    cases r.desiredBody with
    | error e => exact Or.inl ⟨congrArg Store.get? hstep.store, hs₁⟩
    | ok desired =>
      rw [ends_pure]
      split
      · rw [pure_bind]
        have hheld₁ : w₁.Holds e.id := by simp [Holds, he, heid, hheld]
        refine (observe_stands hstep.undisturbed hstep.store hv hr (heid ▸ hid) hheld₁).imp ?_ ?_
        · rintro - w₂ ⟨h₂, hs₂⟩
          exact ⟨h₂, hs₁ ▸ hs₂⟩
        · rintro f w₂ ⟨ho₂, hs₂⟩
          exact Or.inl ⟨ho₂, hs₂.trans hs₁⟩
      · simp only [ends_bind, ends_during]
        refine (updateEntity_ends hstep.undisturbed).imp ?_ ?_
        rotate_left
        · rintro f w₂ ⟨hstep₂, -⟩
          exact Or.inl ⟨congrArg Store.get? (hstep₂.store.trans hstep.store),
            (congrArg (Metrics.standing · k) hstep₂.metrics).trans hs₁⟩
        rintro e' w₂ ⟨hstep₂, e₁, hheld₁, rfl, he₂⟩
        rw [he] at hheld₁ he₂
        obtain rfl := Option.some.inj (hheld.symm.trans hheld₁)
        simp only [ends_countOperation, ends_publish, ends_pure]
        have hu : Undisturbed { w₂ with
            metrics := w₂.metrics.recordOperation k.name Operation.update.name
            events := w₂.events ++ [⟨.normal, .updated, s!"Updated remote entity {id}"⟩] } :=
          hstep₂.undisturbed
        have hs₂ : w₂.standing = w.standing :=
          (congrArg (Metrics.standing · k) hstep₂.metrics).trans hs₁
        have heid₂ : (Platform.renewed e desired).id = id := heid
        have hheld₂ : w₂.Holds (Platform.renewed e desired).id := by simp [Holds, he₂, heid₂]
        refine (observe_stands hu (hstep₂.store.trans hstep.store) hv hr (heid₂ ▸ hid)
          hheld₂).imp ?_ ?_
        · rintro - w₃ ⟨h₃, hs₃⟩
          exact ⟨h₃, hs₂ ▸ hs₃⟩
        · rintro f w₃ ⟨ho₃, hs₃⟩
          exact Or.inl ⟨ho₃, hs₃.trans hs₂⟩
  · rintro f w₁ ⟨hstep, -, -⟩
    have hs₁ : w₁.standing = w.standing := congrArg (Metrics.standing · k) hstep.metrics
    split
    · simp only [ends_bind, ends_publish, ends_discard]
      change Ends _ { w₁ with events := _ } _ _
      refine (writeStatus_ends (by exact hstep.undisturbed)).imp ?_ ?_
      · rintro r₁ w₂ ⟨hstep₂, -⟩
        have hs₂ : w₂.standing = w.standing :=
          (congrArg (Metrics.standing · k) hstep₂.metrics).trans hs₁
        exact ends_untrack_standing.imp (fun _ _ h => Or.inr (hs₂ ▸ h)) fun _ _ h => h.elim
      · rintro f₂ w₂ ⟨hstep₂, ho⟩
        exact Or.inl ⟨ho.trans (congrArg Store.get? hstep.store),
          (congrArg (Metrics.standing · k) hstep₂.metrics).trans hs₁⟩
    · exact Or.inl ⟨congrArg Store.get? hstep.store, hs₁⟩

theorem ensureFinalizer_standing {finalizer : String} :
    Ends (ensureFinalizer r finalizer) w (fun _ w' => w'.standing = w.standing)
      (fun _ w' => w'.standing = w.standing) :=
  (steps_standing (· = w.standing)).ensureFinalizer w rfl

theorem removeFinalizer_standing {finalizer : String} :
    Ends (removeFinalizer r finalizer) w (fun _ w' => w'.standing = w.standing)
      (fun _ w' => w'.standing = w.standing) :=
  (steps_standing (· = w.standing)).removeFinalizer w rfl

variable {g : Engine k}

theorem pendingCreation_tells (hw : w.Steady) (hr : w.store.get? key = some r)
    (due : g.lifecycle r = .pendingCreation) (hb : w.Backed key) :
    Ends (Engine.pendingCreation r) w (fun _ w' => w'.Tells key) (fun _ w' => w'.Backed key) := by
  have hnone : w.standing key = none := by
    refine hb.standing_eq_none fun id hid => ?_
    rw [idAt_of_get? hr, (Engine.lifecycle_eq_pendingCreation_iff.1 due).1] at hid
    cases hid
  unfold Engine.pendingCreation
  simp only [ends_bind, ends_during]
  refine ((createEntity_effect hw.undisturbed hw.placed.writesBack hr).and
    createEntity_standing).imp ?_ ?_
  rotate_left
  · rintro f w₁ ⟨-, hs⟩
    exact backed_of_none (by rw [hs, hnone])
  rintro - w₁ ⟨hc, hs⟩
  cases hc with
  | @recorded r' _ hu place hrec _ =>
    subst place
    have hr' : w₁.store.get? r.key = some r' := by rw [hrec.objects, Function.update_self]
    have hstands : w₁.standing r.key = some r.typeLabel := by rw [hs, Function.update_self]
    have hstep : w₁.InStep r.key r.typeLabel := by
      obtain ⟨b, he⟩ := hrec.entities
      exact ⟨r', _, hr', hrec.remoteId hw.named, (holds_update he).2 (Or.inr rfl),
        congrArg k.typeLabel hrec.version.spec⟩
    have hsame {w₂ : World k} (hs₂ : w₂.standing = w₁.standing)
        (ho₂ : w₂.store.get? = w₁.store.get?) : w₂.Backed r.key :=
      (hstep.tells hstands).backed.of_eq (congrFun (idAt_eq_of_get? ho₂) _) (congrFun hs₂ _)
    refine (load_ends hu).imp ?_ ?_
    rotate_left
    · rintro f w₂ ⟨hload, hs₂⟩
      exact hsame (congrArg (Metrics.standing · k) hload.metrics) (congrArg Store.get? hs₂)
    rintro o w₂ ⟨hload, hs₂, rfl⟩
    have hkey : r'.key = r.key := hrec.version.key
    have hstands₂ : w₂.standing = w₁.standing := congrArg (Metrics.standing · k) hload.metrics
    simp only [hr', ends_bind, ends_during, ends_publish, ends_pure]
    refine ((ensureFinalizer_ends hload.undisturbed.alone (by rw [hs₂, hkey, hr'])).and
      ensureFinalizer_standing).imp ?_ ?_
    · rintro - w₃ ⟨⟨hp₃, r'', hversion, hstatus, -, ho₃⟩, hs₃⟩
      have hstep₃ : w₃.InStep r.key r.typeLabel := by
        refine hstep.next (fun id hid => ?_) fun r₁ hr₁ => ?_
        · rw [Holds, hp₃, hload.platform]
          exact hid
        · obtain rfl := Option.some.inj (hr'.symm.trans hr₁)
          exact ⟨r'', by rw [ho₃, hkey, Function.update_self],
            Resource.remoteId_eq_of_status hstatus, hversion.spec⟩
      exact hstep₃.tells (by rw [hs₃, hstands₂, hstands])
    · rintro f w₃ ⟨⟨-, ho₃⟩, hs₃⟩
      exact hsame (hs₃.trans hstands₂) (ho₃.trans (congrArg Store.get? hs₂))

/-- Once an entity is deleted its resource stands no longer. -/
theorem deleteEntity_tells (hw : w.Steady) (hr : w.store.get? key = some r) (hb : w.Backed key) :
    Ends r.deleteEntity w
      (fun _ w' => w'.Undisturbed ∧ w'.store = w.store ∧ w'.standing key = none ∧
        ∀ id, r.remoteId = some id → ¬ w'.Holds id)
      (fun _ w' => w'.Backed key) := by
  have hkey : r.key = key := hw.placed key r hr
  refine ((deleteEntity_effect hw.undisturbed).and deleteEntity_standing).imp ?_ ?_
  · rintro - w₁ ⟨⟨hu, hs, he⟩, hstands⟩
    refine ⟨hu, hs, ?_, fun id hid hheld => (holds_of_dropped he hheld).2 hid⟩
    split at hstands
    · next hnone =>
      rw [hstands]
      refine hb.standing_eq_none fun id hid => ?_
      rw [idAt_of_get? hr, hnone] at hid
      cases hid
    · rw [hstands, hkey, Function.update_self]
  · rintro f w₁ ⟨⟨hs, -⟩, hstands⟩
    exact hb.of_eq (congrFun (idAt_eq_of_get? (congrArg Store.get? hs)) _) (congrFun hstands _)

theorem pendingDeletion_tells (hw : w.Steady) (hr : w.store.get? key = some r)
    (hb : w.Backed key) :
    Ends (Engine.pendingDeletion r) w (fun _ w' => w'.Tells key) (fun _ w' => w'.Backed key) := by
  have hkey : r.key = key := hw.placed key r hr
  unfold Engine.pendingDeletion
  simp only [ends_bind, ends_during]
  refine (deleteEntity_tells hw hr hb).imp ?_ fun _ _ h => h
  rintro - w₁ ⟨hu, hs, hnone, hgone⟩
  refine ((removeFinalizer_ends hu).and removeFinalizer_standing).imp ?_ ?_
  · rintro - w₂ ⟨⟨hp₂, ho₂⟩, hs₂⟩
    refine tells_of_none (by rw [← hnone]; exact congrFun hs₂ _) ?_
    intro r₂ id hr₂ hid hheld
    have hheld₁ : w₁.Holds id := holds_of_eq (congrArg Platform.entity? hp₂) hheld
    refine hgone id ?_ hheld₁
    -- whatever the finalizers are now, the object still records what it did
    rw [hs] at ho₂
    change w₂.store.get? key = some r₂ at hr₂
    rcases ho₂ with ho₂ | ⟨-, stored, hplace, ho₂⟩
    · rw [ho₂, hr] at hr₂
      obtain rfl := Option.some.inj hr₂
      exact hid
    · rw [hkey, hr] at hplace
      obtain rfl := Option.some.inj hplace
      rw [ho₂, hkey, Function.update_self] at hr₂
      exact (Resource.remoteId_eq_of_status (Store.refinalized_eq_some hr₂).2.1).symm.trans hid
  · rintro f w₂ ⟨-, hs₂⟩
    exact backed_of_none ((congrFun hs₂ _).trans hnone)

theorem outOfScope_tells (hw : w.Steady) (hr : w.store.get? key = some r) (hb : w.Backed key) :
    Ends (Engine.outOfScope r) w (fun _ w' => w'.Tells key) (fun _ w' => w'.Backed key) := by
  unfold Engine.outOfScope
  split
  · simp only [ends_bind, ends_during]
    refine (deleteEntity_tells hw hr hb).imp ?_ fun _ _ h => h
    rintro - w₁ ⟨-, hs, hnone, hgone⟩
    refine tells_of_none hnone fun r₁ id hr₁ hid => ?_
    obtain rfl : r = r₁ := Option.some.inj (hr.symm.trans (hs ▸ hr₁))
    exact hgone id hid
  · next hid =>
    have hrid : r.remoteId = none := by simpa using hid
    refine tells_of_none (hb.standing_eq_none fun id hat => ?_) fun r₁ id hr₁ hid₁ => ?_
    · rw [idAt_of_get? hr, hrid] at hat
      cases hat
    · obtain rfl := Option.some.inj (hr.symm.trans hr₁)
      rw [hrid] at hid₁
      cases hid₁

theorem active_tells (hw : w.Steady) (hr : w.store.get? key = some r)
    (due : g.lifecycle r = .active) (hb : w.Backed key) :
    Ends (g.active r) w (fun _ w' => w'.Tells key) (fun _ w' => w'.Backed key) := by
  have hkey : r.key = key := hw.placed key r hr
  obtain ⟨id, hid⟩ := Option.ne_none_iff_exists'.1 (Engine.lifecycle_eq_active_iff.1 due).1
  unfold Engine.active
  simp only [ends_bind, ends_during]
  refine (updateEntity_stands hw.undisturbed hw.placed.writesBack hw.wellKeyed hr hid).imp ?_ ?_
  · rintro - w₁ ⟨hstep, hs⟩
    have htells : w₁.Tells key := hstep.tells (by rw [hs, hkey, Function.update_self])
    cases g.successRequeue with
    | none => exact htells
    | some d => exact htells
  · rintro f w₁ (⟨ho, hs⟩ | hs)
    · exact hb.of_eq (congrFun (idAt_eq_of_get? ho) _) (congrFun hs _)
    · exact backed_of_none (by rw [hs, hkey, Function.update_self])

/-- Whatever calls fail, after a pass that succeeds the metrics tell the truth about the resource of
its key, and after one that fails the resource is backed there if it stands. -/
theorem reconcile_tells (g : Engine k) (hw : w.Steady) (hb : w.Backed key) (elapsed : Duration) :
    Ends (g.reconcile key elapsed) w (fun _ w' => w'.Tells key) (fun _ w' => w'.Backed key) := by
  unfold Engine.reconcile
  simp only [ends_bind, ends_during]
  refine (load_ends hw.undisturbed).imp ?_ ?_
  rotate_left
  · rintro f w₁ ⟨hstep, hs⟩
    exact hb.of_eq (congrFun (idAt_eq_of_get? (congrArg Store.get? hs)) _)
      (congrFun (congrArg (Metrics.standing · k) hstep.metrics) _)
  rintro o w₁ ⟨hstep, hs, ho⟩
  have hs₁ : w₁.standing = w.standing := congrArg (Metrics.standing · k) hstep.metrics
  have ho₁ : w₁.store.get? = w.store.get? := congrArg Store.get? hs
  have hb₁ : w₁.Backed key :=
    hb.of_eq (congrFun (idAt_eq_of_get? ho₁) _) (congrFun hs₁ _)
  have hw₁ : w₁.Steady := by
    refine ⟨hstep.undisturbed, hs ▸ hw.placed, ?_, ?_⟩
    · rw [hstep.platform]
      exact hw.wellKeyed
    · rw [hstep.platform]
      exact hw.named
  rw [← hs] at ho
  cases o with
  | none =>
    have hnone : w₁.standing key = none := by
      refine hb₁.standing_eq_none fun id hid => ?_
      rw [idAt, ← ho] at hid
      cases hid
    have htells : w₁.Tells key := tells_of_none hnone fun r id hr => by
      rw [← ho] at hr
      cases hr
    exact htells
  | some r =>
    simp only [ends_bind, ends_attempt]
    have htransition : Ends (g.transition r) w₁ (fun _ w' => w'.Tells key)
        (fun _ w' => w'.Backed key) := by
      unfold Engine.transition
      cases due : g.lifecycle r with
      | pendingCreation => exact pendingCreation_tells hw₁ ho.symm due hb₁
      | pendingDeletion => exact pendingDeletion_tells hw₁ ho.symm hb₁
      | outOfScope => exact outOfScope_tells hw₁ ho.symm hb₁
      | active => exact active_tells hw₁ ho.symm due hb₁
    exact htransition.imp (fun _ _ h => h) fun _ _ h => h

/-- A pass notes nothing about the resources of other keys. -/
theorem standing_elsewhere (g : Engine k) (hw : w.Steady) (hne : key' ≠ key) (elapsed : Duration) :
    (after (g.reconcile key elapsed) w).standing key' = w.standing key' := by
  refine Ends.after (P := fun w' => w'.standing key' = w.standing key') ?_
  unfold Engine.reconcile
  simp only [ends_bind, ends_during]
  refine (load_ends hw.undisturbed).imp ?_ fun _ w₁ h =>
    congrFun (congrArg (Metrics.standing · k) h.1.metrics) key'
  rintro o w₁ ⟨hstep, -, ho⟩
  have hs₁ : w₁.standing key' = w.standing key' :=
    congrFun (congrArg (Metrics.standing · k) hstep.metrics) key'
  cases o with
  | none => exact hs₁
  | some r =>
    have hkey : key' ≠ r.key := by
      rw [hw.placed key r ho.symm]
      exact hne
    have hother {s : ObjectKey → Option String} {type : Option String}
        (hs : s key' = w.standing key') :
        Function.update s r.key type key' = w.standing key' := by
      rw [Function.update_of_ne hkey, hs]
    have hsteps := steps_standing (k := k) (fun s => s key' = w.standing key')
    simp only [ends_bind, ends_attempt]
    refine (hsteps.transition g (fun _ => ?_) (fun _ => ?_) (fun _ => ?_) hs₁).imp
      (fun _ _ h => h) fun _ _ h => h
    · exact createEntity_standing.imp (fun _ _ h => h ▸ hother hs₁) fun _ _ h => h ▸ hs₁
    · refine hsteps.update (fun id b => counted_standing (fun s => s key' = w.standing key'))
        (fun w₂ h₂ => ?_) (fun w₂ h₂ => ?_) w₁ hs₁
      · exact ends_track_standing.imp (fun _ _ h => h ▸ hother h₂) fun _ _ h => h.elim
      · exact ends_untrack_standing.imp (fun _ _ h => h ▸ hother h₂) fun _ _ h => h.elim
    · refine deleteEntity_standing.imp (fun _ w₂ h => ?_) fun _ _ h => h ▸ hs₁
      split at h
      · exact h ▸ hs₁
      · exact h ▸ hother hs₁

end procedures

end World

/-- A pass leaves the objects of other keys as they are. -/
theorem Effect.get?_elsewhere {g : Engine k} {key key' : ObjectKey} {w w' : World k} {ok : Bool}
    (h : Effect g key w w' ok) (hs : w.store.Placed) (hne : key' ≠ key) :
    w'.store.get? key' = w.store.get? key' := by
  cases h with
  | idle ho _ | undone _ _ ho _ | leaked _ _ _ ho _ | tornDown _ _ ho _ => exact congrFun ho key'
  | cut _ _ hrec _ | created _ _ hrec _ => rw [hrec.objects, Function.update_of_ne hne]
  | forgotten _ _ _ _ _ _ _ ho _ => rw [ho, Function.update_of_ne hne]
  | updated _ _ _ _ _ ho _ =>
    rcases ho with ho | ⟨_, -, -, -, ho⟩
    · exact congrFun ho key'
    · rw [ho, Function.update_of_ne hne]
  | @released r _ hr _ _ _ ho _ => rw [ho, hs key r hr, Function.update_of_ne hne]

end ResourceSync
