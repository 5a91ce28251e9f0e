import ResourceSync.Proofs.Effect

/-! A pass has no other effects than the listed ones, whichever of its calls fail. -/
namespace ResourceSync

variable {k : Kind}

open World

section procedures
variable {r : Resource k} {w : World k} {key : ObjectKey} {finalizer : String}

@[simp] theorem ends_countOperation {operation : Operation} {Q : Unit → World k → Prop}
    {E : Failure → World k → Prop} : Ends (Resource.countOperation k operation) w Q E ↔
      Q () { w with metrics := w.metrics.recordOperation k.name operation.name } := Iff.rfl

theorem ensureFinalizer_ends (hw : w.Alone) (hr : w.store.get? r.key = some r) :
    Ends (ensureFinalizer r finalizer) w
      (fun _ w' => w'.platform = w.platform ∧ ∃ r' : Resource k, r'.IsVersionOf r ∧
        r'.status = r.status ∧
        r'.metadata.finalizerList = (if r.hasFinalizer finalizer then r.metadata.finalizerList
          else r.metadata.finalizerList ++ [finalizer]) ∧
        w'.store.get? = Function.update w.store.get? r.key (some r'))
      (fun _ w' => w'.platform = w.platform ∧ w'.store.get? = w.store.get?) := by
  unfold ensureFinalizer
  split
  · refine ⟨rfl, r, .refl r, rfl, rfl, ?_⟩
    rw [← hr, Function.update_eq_self]
  · refine hw.patchFinalizers.imp ?_ fun _ _ h => ⟨h.1.platform, h.2⟩
    rintro - w' ⟨hstep, stored, hstored, hobjects⟩
    obtain rfl : r = stored := Option.some.inj (hr.symm.trans hstored)
    obtain ⟨r', hr'⟩ : ∃ r', w.store.refinalized r (r.metadata.finalizerList ++ [finalizer]) =
        some r' := by
      rw [← Option.ne_none_iff_exists', ne_eq, Store.refinalized_eq_none_iff]
      simp
    obtain ⟨hversion, hstatus, hfin⟩ := Store.refinalized_eq_some hr'
    exact ⟨hstep.platform, r', hversion, hstatus, by simp [Metadata.finalizerList, hfin],
      by rw [hobjects, hr']⟩

theorem removeFinalizer_ends (hw : w.Undisturbed) :
    Ends (removeFinalizer r finalizer) w
      (fun _ w' => w'.platform = w.platform ∧
        (w'.store.get? = w.store.get? ∨ r.hasFinalizer finalizer = true ∧
          ∃ stored, w.store.get? r.key = some stored ∧
            w'.store.get? = Function.update w.store.get? r.key (w.store.refinalized stored
              (r.metadata.finalizerList.filter fun f => f ≠ finalizer))))
      (fun _ w' => w'.platform = w.platform ∧ w'.store.get? = w.store.get?) := by
  unfold removeFinalizer
  split
  · next hfin =>
    refine (patchFinalizers_ends hw).imp ?_ fun _ _ h => ⟨h.1.platform, h.2⟩
    rintro - w' ⟨hstep, hobjects⟩
    exact ⟨hstep.platform, Or.inr ⟨hfin, hobjects⟩⟩
  · exact ⟨rfl, Or.inl rfl⟩

theorem deleteEntity_effect (hw : w.Undisturbed) :
    Ends r.deleteEntity w
      (fun _ w' => w'.Undisturbed ∧ w'.store = w.store ∧ ∀ id, w'.platform.entity? id =
        if r.remoteId = some id then none else w.platform.entity? id)
      (fun _ w' => w'.store = w.store ∧ w'.platform.entity? = w.platform.entity?) := by
  unfold Resource.deleteEntity
  cases hid : r.remoteId with
  | none => exact ⟨hw, rfl, by simp⟩
  | some id =>
    simp only [ends_bind, ends_attempt]
    refine (deleteEntity_ends hw).imp ?_ ?_
    · rintro - w₁ ⟨hstep, hentities⟩
      refine ⟨hstep.undisturbed, hstep.store, ?_⟩
      intro id'
      simp only [hentities, Function.update_apply, Option.some.injEq, eq_comm]
    · rintro f w₁ ⟨hstep, hentities, hgone⟩
      split
      · next hcause =>
        refine ⟨hstep.undisturbed, hstep.store, ?_⟩
        intro id'
        have hnone := hgone (by rw [hcause]; rfl)
        change w₁.platform.entity? id' = _
        rw [hentities]
        split
        · next heq => rw [← Option.some.inj heq, hnone]
        · rfl
      · exact ⟨hstep.store, hentities⟩

/-- How a creation may go, from the world after the object was loaded. -/
inductive Creation (key : ObjectKey) (r : Resource k) (w w' : World k) : Bool → Prop where
  | idle (objects : w'.store.get? = w.store.get?)
      (entities : w'.platform.entity? = w.platform.entity?) : Creation key r w w' false
  | undone (objects : w'.store.get? = w.store.get?)
      (entities : w'.platform.entity? =
        Function.update w.platform.entity? w.platform.nextId none) : Creation key r w w' false
  | leaked {e} (leak : r.leak? w = some w.platform.nextId)
      (objects : w'.store.get? = w.store.get?)
      (entities : w'.platform.entity? =
        Function.update w.platform.entity? w.platform.nextId (some e)) : Creation key r w w' false
  | recorded {r' ok} (undisturbed : w'.Undisturbed) (place : r.key = key)
      (recorded : Recorded w w' key r r')
      (finalizers : r'.metadata.finalizers = r.metadata.finalizers) : Creation key r w w' ok

/-- The end of a creation: the recorded entity is read back, and its status settled. -/
theorem settle_effect {w₀ : World k} {r' : Resource k} {b : k.Body}
    (hw : w.Undisturbed) (hversion : r'.IsVersionOf r)
    (hstatus : r'.status = some (k.statusWithId w₀.platform.nextId) ∨
      ∃ b, r'.status = some (k.observedStatus (Platform.newborn w₀.platform.nextId b)))
    (hfin : r'.metadata.finalizers = r.metadata.finalizers)
    (ho : w.store.get? = Function.update w₀.store.get? r.key (some r'))
    (he : w.platform.entity? = Function.update w₀.platform.entity? w₀.platform.nextId
      (some (Platform.newborn w₀.platform.nextId b))) :
    Ends (getEntity w₀.platform.nextId) w
      (fun e w' => Ends (if r'.status ≠ some (k.observedStatus e) then do
          discard (writeStatus r' (some (k.observedStatus e)))
          r.track
        else r.track) w'
        (fun _ w' => Creation r.key r w₀ w' true) (fun _ w' => Creation r.key r w₀ w' false))
      (fun _ w' => Creation r.key r w₀ w' false) := by
  refine (getEntity_ends hw).imp ?_ ?_
  · rintro e w₁ ⟨hstep, hheld, he₁⟩
    have ho₁ := (congrArg Store.get? hstep.store).trans ho
    have he₁ := he₁.trans he
    rw [he, Function.update_self] at hheld
    obtain rfl := Option.some.inj hheld
    split
    · simp only [ends_bind, ends_discard]
      refine (writeStatus_ends hstep.undisturbed).imp ?_ ?_
      · rintro r₂ w₂ ⟨hstep₂, stored, hstored, -, rfl, ho₂⟩
        rw [ho₁, hversion.key, Function.update_self] at hstored
        obtain rfl := Option.some.inj hstored
        rw [ho₁, hversion.key, Function.update_idem] at ho₂
        refine .recorded (by exact hstep₂.undisturbed) rfl ⟨?_, Or.inr ⟨b, rfl⟩, ho₂, b, ?_⟩ hfin
        · exact (Resource.IsVersionOf.stamped _ _ _).trans hversion
        · exact (congrArg Platform.entity? hstep₂.platform).trans he₁
      · rintro f w₂ ⟨hstep₂, ho₂⟩
        exact .recorded hstep₂.undisturbed rfl ⟨hversion, hstatus, ho₂.trans ho₁, b,
          (congrArg Platform.entity? hstep₂.platform).trans he₁⟩ hfin
    · exact .recorded (by exact hstep.undisturbed) rfl ⟨hversion, hstatus, ho₁, b, he₁⟩ hfin
  · rintro f w₁ ⟨hstep, he₁, -⟩
    exact .recorded hstep.undisturbed rfl ⟨hversion, hstatus,
      (congrArg Store.get? hstep.store).trans ho, b, he₁.trans he⟩ hfin

theorem createEntity_effect (hw : w.Undisturbed) (hv : w.store.WritesBack)
    (hr : w.store.get? key = some r) :
    Ends r.createEntity w (fun _ w' => Creation key r w w' true)
      (fun _ w' => Creation key r w w' false) := by
  unfold Resource.createEntity
  simp only [ends_bind, ends_during, ends_attempt, ends_discard, ends_pure, ends_throw]
  unfold Resource.body
  cases hb : r.desiredBody with
  | error e => exact .idle rfl rfl
  | ok b =>
    refine (createEntity_ends hw).tracked.imp ?_ ?_
    rotate_left
    · rintro f w₁ ⟨-, hstep, he⟩
      exact .idle (congrArg Store.get? hstep.store) he
    rintro id w₁ ⟨hcreate, hstep, rfl, he⟩
    rw [ends_countOperation]
    have hu : Undisturbed { w₁ with
        metrics := w₁.metrics.recordOperation k.name Operation.create.name } := hstep.undisturbed
    refine (writeStatus_ends hu).tracked.imp ?_ ?_
    · rintro r₁ w₂ ⟨-, hstep₂, stored, hstored, hversion, rfl, ho⟩
      simp only [hstep.store] at hstored ho ⊢
      obtain rfl : r.key = key := hv key r stored hr hstored hversion
      obtain rfl : r = stored := Option.some.inj (hr.symm.trans hstored)
      have he₂ : w₂.platform.entity? = Function.update w.platform.entity? w.platform.nextId
          (some (Platform.newborn w.platform.nextId b)) := hstep₂.platform ▸ he
      refine settle_effect hstep₂.undisturbed ?_ ?_ ?_ ho he₂
      · exact .stamped _ _ _
      · exact Or.inl rfl
      · rfl
    · rintro f w₂ ⟨hwrite, hstep₂, ho⟩
      have ho : w₂.store.get? = w.store.get? := ho.trans (congrArg Store.get? hstep.store)
      have he₂ : w₂.platform.entity? = Function.update w.platform.entity? w.platform.nextId
          (some (Platform.newborn w.platform.nextId b)) := hstep₂.platform ▸ he
      refine (deleteEntity_ends hstep₂.undisturbed).tracked.imp ?_ ?_
      · rintro - w₃ ⟨-, hstep₃, he₃⟩
        refine .undone (hstep₃.store ▸ ho) ?_
        rw [he₃, he₂, Function.update_idem]
      · rintro f' w₃ ⟨hdelete, hstep₃, he₃, -⟩
        have hleak : r.leak? w = some w.platform.nextId := by
          simp only [Resource.leak?, hb, hcreate, hwrite, hdelete]
        exact .leaked hleak (hstep₃.store ▸ ho)
          (he₃.trans he₂)

/-- The end of an update: the observed status is written, unless it stands already. -/
theorem observe_effect {w₀ : World k} {e : Entity k.Body} (hw : w.Undisturbed)
    (hstore : w.store = w₀.store) (hv : w₀.store.WritesBack) (hr : w₀.store.get? key = some r) :
    Ends (if r.status ≠ some (k.observedStatus e) then do
        discard (writeStatus r (some (k.observedStatus e)))
        r.track
      else r.track) w
      (fun _ w' => w'.platform = w.platform ∧
        (w'.store.get? = w₀.store.get? ∨ ∃ r' : Resource k, r'.IsVersionOf r ∧
          r'.status = some (k.observedStatus e) ∧
          r'.metadata.finalizers = r.metadata.finalizers ∧
          w'.store.get? = Function.update w₀.store.get? key (some r')))
      (fun _ w' => w'.platform = w.platform ∧ w'.store.get? = w₀.store.get?) := by
  split
  · simp only [ends_bind, ends_discard]
    refine (writeStatus_ends hw).imp ?_ ?_
    · rintro r₁ w₁ ⟨hstep, stored, hstored, hversion, rfl, ho⟩
      simp only [hstore] at hstored ho
      obtain rfl : r.key = key := hv key r stored hr hstored hversion
      obtain rfl : r = stored := Option.some.inj (hr.symm.trans hstored)
      exact ⟨hstep.platform, Or.inr ⟨_, .stamped _ _ _, rfl, rfl, ho⟩⟩
    · rintro f w₁ ⟨hstep, ho⟩
      exact ⟨hstep.platform, hstore ▸ ho⟩
  · exact ⟨rfl, Or.inl (congrArg Store.get? hstore)⟩

theorem updateEntity_effect {g : Engine k} {w₀ : World k} (hw : w.Undisturbed)
    (hs : w.store = w₀.store) (hp : w.platform = w₀.platform) (hv : w₀.store.WritesBack)
    (hr : w₀.store.get? key = some r) (due : g.lifecycle r = .active) :
    Ends r.updateEntity w (fun _ w' => Effect g key w₀ w' true)
      (fun _ w' => Effect g key w₀ w' false) := by
  obtain ⟨id, hid⟩ := Option.ne_none_iff_exists'.1 (Engine.lifecycle_eq_active_iff.1 due).1
  unfold Resource.updateEntity
  simp only [hid, Option.getD_some, ends_bind, ends_attempt]
  refine (getEntity_ends hw).imp ?_ ?_
  · rintro e w₁ ⟨hstep, hheld, he⟩
    rw [hp] at hheld he
    have ho : w₁.store.get? = w₀.store.get? := congrArg Store.get? (hstep.store.trans hs)
    rw [ends_pure]
    unfold Resource.body
    cases r.desiredBody with
    | error e => exact .idle ho he
    | ok desired =>
      rw [ends_pure]
      split
      · have hkept : w₁.platform.entity? = Function.update w₀.platform.entity? id (some e) := by
          rw [he, ← hheld, Function.update_eq_self]
        rw [pure_bind]
        refine (observe_effect hstep.undisturbed (hstep.store.trans hs) hv hr).imp ?_ ?_
        · rintro - w₂ ⟨hp₂, ho₂⟩
          exact .updated hr due hid hheld rfl ho₂ (hp₂ ▸ hkept)
        · rintro f w₂ ⟨hp₂, ho₂⟩
          exact .updated hr due hid hheld rfl (Or.inl ho₂) (hp₂ ▸ hkept)
      · simp only [ends_bind, ends_during]
        refine (updateEntity_ends hstep.undisturbed).imp ?_ ?_
        rotate_left
        · rintro f w₂ ⟨hstep₂, he₂⟩
          exact .idle ((congrArg Store.get? hstep₂.store).trans ho) (he₂.trans he)
        rintro e' w₂ ⟨hstep₂, e₁, hheld₁, rfl, he₂⟩
        rw [he] at hheld₁ he₂
        obtain rfl := Option.some.inj (hheld.symm.trans hheld₁)
        simp only [ends_countOperation, ends_publish, ends_pure]
        have hu : Undisturbed { w₂ with
            metrics := w₂.metrics.recordOperation k.name Operation.update.name
            events := w₂.events ++ [⟨.normal, .updated, s!"Updated remote entity {id}"⟩] } :=
          hstep₂.undisturbed
        have hsame : (Platform.renewed e desired).id = e.id := rfl
        refine (observe_effect hu (hstep₂.store.trans (hstep.store.trans hs)) hv hr).imp ?_ ?_
        · rintro - w₃ ⟨hp₃, ho₃⟩
          exact .updated hr due hid hheld hsame ho₃ (hp₃ ▸ he₂)
        · rintro f w₃ ⟨hp₃, ho₃⟩
          exact .updated hr due hid hheld hsame (Or.inl ho₃) (hp₃ ▸ he₂)
  · rintro f w₁ ⟨hstep, he, hgone⟩
    rw [hp] at he hgone
    split
    · next hcause =>
      have hnone := hgone (by rw [hcause]; rfl)
      simp only [ends_bind, ends_publish, ends_discard]
      change Ends _ { w₁ with events := _ } _ _
      refine (writeStatus_ends (by exact hstep.undisturbed)).imp ?_ ?_
      · rintro r₁ w₂ ⟨hstep₂, stored, hstored, hversion, rfl, ho⟩
        simp only [hstep.store, hs] at hstored ho
        obtain rfl : r.key = key := hv key r stored hr hstored hversion
        obtain rfl : r = stored := Option.some.inj (hr.symm.trans hstored)
        exact .forgotten hr due hid hnone (.stamped _ _ _) rfl rfl ho
          ((congrArg Platform.entity? hstep₂.platform).trans he)
      · rintro f₂ w₂ ⟨hstep₂, ho⟩
        exact .idle (ho.trans (congrArg Store.get? (hstep.store.trans hs)))
          ((congrArg Platform.entity? hstep₂.platform).trans he)
    · exact .idle (congrArg Store.get? (hstep.store.trans hs)) he

theorem pendingCreation_effect {g : Engine k} {w₀ : World k} (hw : w.Undisturbed)
    (hs : w.store = w₀.store) (hp : w.platform = w₀.platform)
    (hload : load key w₀ = .ok (some r) w) (hv : w₀.store.WritesBack)
    (hr : w₀.store.get? key = some r) (due : g.lifecycle r = .pendingCreation) :
    Ends (Engine.pendingCreation r) w (fun _ w' => Effect g key w₀ w' true)
      (fun _ w' => Effect g key w₀ w' false) := by
  unfold Engine.pendingCreation
  simp only [ends_bind, ends_during]
  refine (createEntity_effect hw (hs ▸ hv) (hs ▸ hr)).imp ?_ ?_
  · rintro - w₁ hc
    cases hc with
    | @recorded r' _ hu place hrec hfin =>
      subst place
      have hsome : w₁.store.get? r.key = some r' := by rw [hrec.objects, Function.update_self]
      refine (load_ends hu).imp ?_ ?_
      rotate_left
      · rintro f w₂ ⟨hstep, hs₂⟩
        exact .cut hr due (hrec.same hs hp (congrArg Store.get? hs₂)
          (congrArg Platform.entity? hstep.platform)) hfin
      rintro o w₂ ⟨hstep, hs₂, rfl⟩
      have hkey : r'.key = r.key := hrec.version.key
      simp only [hsome, ends_bind, ends_during, ends_publish, ends_pure]
      refine (ensureFinalizer_ends hstep.undisturbed.alone (by rw [hs₂, hkey, hsome])).imp ?_ ?_
      · rintro - w₃ ⟨hp₃, r'', hversion, hstatus, hfin₃, ho₃⟩
        rw [hs₂, hkey] at ho₃
        have hlist : r'.metadata.finalizerList = r.metadata.finalizerList :=
          congrArg (Option.getD · []) hfin
        refine .created hr due (hrec.next hs hp hversion hstatus ho₃
          (congrArg Platform.entity? (hp₃.trans hstep.platform))) ?_
        rw [hfin₃, Resource.hasFinalizer, Resource.hasFinalizer, hlist]
      · rintro f w₃ ⟨hp₃, ho₃⟩
        exact .cut hr due (hrec.same hs hp (ho₃.trans (congrArg Store.get? hs₂))
          (congrArg Platform.entity? (hp₃.trans hstep.platform))) hfin
  · rintro f w₁ hc
    cases hc with
    | idle ho he => exact .idle (hs ▸ ho) (hp ▸ he)
    | undone ho he => exact .undone hr due (hs ▸ ho) (hp ▸ he)
    | leaked leak ho he =>
      have hleak : g.leak? key w₀ = some w₀.platform.nextId := by
        simp only [Engine.leak?, hload, due, if_true, leak, hp]
      exact .leaked hr due hleak (hs ▸ ho) (hp ▸ he)
    | recorded _ place hrec hfin => exact .cut hr due (hrec.same hs hp rfl rfl) hfin

theorem pendingDeletion_effect {g : Engine k} {w₀ : World k} (hw : w.Undisturbed)
    (hs : w.store = w₀.store) (hp : w.platform = w₀.platform)
    (hr : w₀.store.get? key = some r) (due : g.lifecycle r = .pendingDeletion) :
    Ends (Engine.pendingDeletion r) w (fun _ w' => Effect g key w₀ w' true)
      (fun _ w' => Effect g key w₀ w' false) := by
  unfold Engine.pendingDeletion
  simp only [ends_bind, ends_during]
  refine (deleteEntity_effect hw).imp ?_ ?_
  rotate_left
  · rintro f w₁ ⟨hs₁, he₁⟩
    exact .idle (congrArg Store.get? (hs₁.trans hs)) (he₁.trans (congrArg Platform.entity? hp))
  rintro - w₁ ⟨hu, hs₁, he₁⟩
  rw [hp] at he₁
  refine (removeFinalizer_ends hu).imp ?_ ?_
  · rintro - w₂ ⟨hp₂, ho₂ | ⟨hfin, stored, hplace, ho₂⟩⟩
    · exact .tornDown hr (Or.inl due) (ho₂.trans (congrArg Store.get? (hs₁.trans hs)))
        (hp₂ ▸ he₁)
    · rw [hs₁, hs] at hplace ho₂
      exact .released hr due hfin hplace ho₂ (hp₂ ▸ he₁)
  · rintro f w₂ ⟨hp₂, ho₂⟩
    exact .tornDown hr (Or.inl due) (ho₂.trans (congrArg Store.get? (hs₁.trans hs))) (hp₂ ▸ he₁)

theorem outOfScope_effect {g : Engine k} {w₀ : World k} (hw : w.Undisturbed)
    (hs : w.store = w₀.store) (hp : w.platform = w₀.platform)
    (hr : w₀.store.get? key = some r) (due : g.lifecycle r = .outOfScope) :
    Ends (Engine.outOfScope r) w (fun _ w' => Effect g key w₀ w' true)
      (fun _ w' => Effect g key w₀ w' false) := by
  unfold Engine.outOfScope
  split
  · simp only [ends_bind, ends_during]
    refine (deleteEntity_effect hw).imp ?_ ?_
    · rintro - w₁ ⟨-, hs₁, he₁⟩
      exact .tornDown hr (Or.inr due) (congrArg Store.get? (hs₁.trans hs)) (hp ▸ he₁)
    · rintro f w₁ ⟨hs₁, he₁⟩
      exact .idle (congrArg Store.get? (hs₁.trans hs)) (he₁.trans (congrArg Platform.entity? hp))
  · exact .idle (congrArg Store.get? hs) (congrArg Platform.entity? hp)

/-- What is due is done, with one of the listed effects. -/
theorem transition_effect {g : Engine k} {w₀ : World k} (hw : w.Undisturbed)
    (hs : w.store = w₀.store) (hp : w.platform = w₀.platform)
    (hload : load key w₀ = .ok (some r) w) (hv : w₀.store.WritesBack)
    (hr : w₀.store.get? key = some r) :
    Ends (g.transition r) w (fun _ w' => Effect g key w₀ w' true)
      (fun _ w' => Effect g key w₀ w' false) := by
  unfold Engine.transition
  cases due : g.lifecycle r with
  | pendingCreation => exact pendingCreation_effect hw hs hp hload hv hr due
  | pendingDeletion => exact pendingDeletion_effect hw hs hp hr due
  | outOfScope => exact outOfScope_effect hw hs hp hr due
  | active =>
    unfold Engine.active
    simp only [ends_bind, ends_during]
    refine (updateEntity_effect hw hs hp hv hr due).imp ?_ fun _ _ h => h
    intro _ w₁ h
    cases g.successRequeue <;> exact h

end procedures

/-- Whatever calls fail, a pass has one of the listed effects. -/
theorem reconcile_effect (g : Engine k) (key : ObjectKey) (elapsed : Duration) {w : World k}
    (hw : w.Undisturbed) (hv : w.store.WritesBack) :
    Ends (g.reconcile key elapsed) w (fun _ w' => Effect g key w w' true)
      (fun _ w' => Effect g key w w' false) := by
  unfold Engine.reconcile
  simp only [ends_bind, ends_during]
  refine (load_ends hw).tracked.imp ?_ ?_
  rotate_left
  · rintro f w₀ ⟨-, hstep, hs⟩
    exact .idle (congrArg Store.get? hs) (congrArg Platform.entity? hstep.platform)
  rintro o w₀ ⟨hload, hstep, hs, ho⟩
  cases o with
  | none => exact .idle (congrArg Store.get? hs) (congrArg Platform.entity? hstep.platform)
  | some r =>
    dsimp only
    simp only [ends_bind, ends_attempt]
    exact (transition_effect hstep.undisturbed hs hstep.platform hload hv ho.symm).imp
      (fun _ _ h => h.carried rfl rfl) fun _ _ h => h.carried rfl rfl

end ResourceSync
