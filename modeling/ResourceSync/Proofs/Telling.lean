import ResourceSync.Proofs.Effect
import ResourceSync.Proofs.Tally

/-! What is published while the due is done for a resource: at most one thing, and what it can be
depends on what is due. -/
namespace ResourceSync

variable {k : Kind}

namespace World
variable {w₀ w w' : World k} {r : Resource k} {g : Engine k}

/-- Nothing was published, and no entity was brought in step. -/
structure Quiet (w w' : World k) : Prop where
  events : w'.events = w.events
  updates : w'.platform.changes.update = w.platform.changes.update

theorem Quiet.refl (w : World k) : Quiet w w := ⟨rfl, rfl⟩

theorem overlooks_quiet (w₀ : World k) : Overlooks (Quiet w₀) := fun _ _ _ h => ⟨h.events, h.updates⟩

theorem quiet_requests (w₀ : World k) : CarriedByRequests (Quiet w₀) :=
  (overlooks_quiet w₀).requests fun w id h =>
    ⟨h.events, (congrArg _ (w.platform.unaltered_get id).changes).trans h.updates⟩

theorem quiet_measure {m : Metrics → Metrics} : Carries (Quiet w₀) (measure m : Run k Unit) :=
  fun _ h => ⟨h.events, h.updates⟩

theorem quiet_createEntity {b : k.Body} : Carries (Quiet w₀) (World.createEntity b) := by
  refine (overlooks_quiet w₀).around (carries_onPlatform fun w h => ⟨h.events, ?_⟩)
  rcases w.platform.create_alters b with ⟨e, p, hs, hp⟩ | ⟨p, hs, -, hp⟩
  · rw [hs]
    exact (congrArg _ hp.changes).trans h.updates
  · rw [hs]
    exact (congrArg ChangeCounts.update hp).trans h.updates

theorem quiet_deleteEntity {id : String} : Carries (Quiet w₀) (World.deleteEntity (k := k) id) := by
  refine (overlooks_quiet w₀).around (carries_onPlatform fun w h => ⟨h.events, ?_⟩)
  rcases w.platform.delete_alters id with ⟨e, p, hs, hp⟩ | ⟨-, p, hs, -, -, hp⟩
  · rw [hs]
    exact (congrArg _ hp.changes).trans h.updates
  · rw [hs]
    exact (congrArg ChangeCounts.update hp).trans h.updates

theorem quiet_counted {α : Type} {o : Operation} {x : Run k α} (hx : Carries (Quiet w₀) x) :
    Carries (Quiet w₀) (counted o x) :=
  hx.bind fun a => quiet_measure.bind fun _ => carries_pure a

theorem quiet_create : Carries (Quiet w₀) r.createEntity := fun w hw =>
  (quiet_requests w₀).create hw (fun _ => quiet_counted quiet_createEntity w hw)
    (fun _ => quiet_deleteEntity) quiet_measure

theorem quiet_delete : Carries (Quiet w₀) r.deleteEntity := fun w hw =>
  (CarriedByRequests.delete hw (fun _ => quiet_counted quiet_deleteEntity w hw) quiet_measure).imp
    (fun _ _ h => (ite_self _).mp h) fun _ _ h => h

/-- An update that goes through is one update more. -/
theorem ends_updateEntity (w : World k) (id : String) (b : k.Body) :
    Ends (World.updateEntity id b) w
      (fun _ w' => w'.events = w.events ∧
        w'.platform.changes.update = w.platform.changes.update + 1)
      (fun _ w' => w.Quiet w') := by
  have hcall {v : World k} (hv : w.Quiet v) : Ends (onPlatform fun p => p.update id b) v
      (fun _ w' => w'.events = w.events ∧
        w'.platform.changes.update = w.platform.changes.update + 1)
      (fun _ w' => w.Quiet w') := by
    rw [ends_onPlatform]
    rcases v.platform.update_alters id b with ⟨e, p, hs, hp⟩ | ⟨-, e, p, hs, -, -, hp⟩
    · simp only [hs]
      exact ⟨hv.events, (congrArg _ hp.changes).trans hv.updates⟩
    · simp only [hs]
      exact ⟨hv.events, by rw [hp, hv.updates]⟩
  simp only [World.updateEntity, around, ends_bind, ends_nextTurn]
  cases (w.plan .remoteUpdate).headD .pass with
  | fail cause => exact ⟨rfl, rfl⟩
  | pass | distort | meddle => exact hcall ⟨rfl, rfl⟩

/-- The platform says, when it is asked first, that it has no such entity. -/
def Denies (w : World k) (id : String) : Prop :=
  ∃ f w', getEntity (k := k) id w = .error f w' ∧ f.cause.isNotFound = true

end World

open World

namespace Engine
variable {g : Engine k} {r : Resource k} {w w' w₁ : World k} {ok : Bool} {e : Event}
  {told : List Event}

/-- What may be published while the due is done for a resource. The flag says whether that succeeds. -/
inductive Announces (g : Engine k) (r : Resource k) (w : World k) : Bool → List Event → Prop where
  | failed : Announces g r w false []
  | unchanged (due : g.lifecycle r = .active ∨ g.lifecycle r = .outOfScope) : Announces g r w true []
  | created {message} (due : g.lifecycle r = .pendingCreation) :
      Announces g r w true [⟨.normal, .created, message⟩]
  | deleted {message} (due : g.lifecycle r = .pendingDeletion) :
      Announces g r w true [⟨.normal, .deleted, message⟩]
  | tornDown {message} (due : g.lifecycle r = .outOfScope) (recorded : r.remoteId ≠ none) :
      Announces g r w true [⟨.normal, .outOfScope, message⟩]
  | updated {ok : Bool} {message} (due : g.lifecycle r = .active) :
      Announces g r w ok [⟨.normal, .updated, message⟩]
  /-- The platform has lost the entity. -/
  | missed {id message} (due : g.lifecycle r = .active) (recorded : r.remoteId = some id)
      (denied : w.Denies id) : Announces g r w false [⟨.warning, .remoteNotFound, message⟩]

theorem Announces.length_le (h : g.Announces r w ok told) : told.length ≤ 1 := by
  cases h <;> simp

/-- A warning says that the platform has lost the recorded entity, and the pass fails. -/
theorem Announces.of_warning (h : g.Announces r w ok told) (he : e ∈ told)
    (hwarning : e.severity = .warning) : ok = false ∧ ∃ id, r.remoteId = some id ∧ w.Denies id := by
  cases h with
  | failed | unchanged => cases he
  | missed due recorded denied => exact ⟨rfl, _, recorded, denied⟩
  | created | deleted | tornDown | updated =>
    rw [List.mem_singleton.1 he] at hwarning
    cases hwarning

/-- The other milestones are the end of a pass that succeeds. -/
theorem Announces.of_failure (h : g.Announces r w false told) (he : e ∈ told) :
    e.reason = .updated ∨ e.reason = .remoteNotFound := by
  cases h with
  | failed => cases he
  | updated => exact Or.inl (congrArg Event.reason (List.mem_singleton.1 he))
  | missed => exact Or.inr (congrArg Event.reason (List.mem_singleton.1 he))

/-- What was published since `w`, with each update that went through. -/
structure Tells (g : Engine k) (r : Resource k) (w w' : World k) (ok : Bool)
    (told : List Event) : Prop where
  announces : g.Announces r w ok told
  events : w'.events = w.events ++ told
  updates : w'.platform.changes.update =
    w.platform.changes.update + told.countP fun e => e.reason = .updated

theorem Tells.quiet (h : g.Tells r w w₁ ok told) (hquiet : w₁.Quiet w') : g.Tells r w w' ok told :=
  ⟨h.announces, hquiet.events.trans h.events, hquiet.updates.trans h.updates⟩

theorem tells_nothing (h : w.Quiet w') (ha : g.Announces r w ok []) : g.Tells r w w' ok [] :=
  ⟨ha, by rw [h.events, List.append_nil], h.updates⟩

/-- The publication is all that has happened. -/
theorem tells_publish (h : w.Quiet w₁) (ha : g.Announces r w ok [e]) (he : e.reason ≠ .updated) :
    g.Tells r w { w₁ with events := w₁.events ++ [e] } ok [e] :=
  ⟨ha, by rw [h.events], by simp [h.updates, he]⟩

theorem tells_failed (h : w.Quiet w') : ∃ told, g.Tells r w w' false told :=
  ⟨[], tells_nothing h .failed⟩

theorem tells_update (due : g.lifecycle r = .active) :
    Ends r.updateEntity w (fun _ w' => ∃ told, g.Tells r w w' true told)
      (fun _ w' => ∃ told, g.Tells r w w' false told) := by
  obtain ⟨id, hid⟩ := Option.ne_none_iff_exists'.1 (lifecycle_eq_active_iff.1 due).1
  have hrequests := quiet_requests w
  unfold Resource.updateEntity Resource.body
  simp only [hid, Option.getD_some, ends_bind, ends_attempt]
  refine (hrequests.getEntity id w (.refl w)).tracked.imp ?_ ?_
  · rintro e w₁ ⟨-, h₁⟩
    rw [ends_pure]
    cases r.desiredBody with
    | error e => exact tells_failed h₁
    | ok desired =>
      rw [ends_pure]
      split
      · rw [pure_bind]
        exact (hrequests.observe h₁ fun _ => quiet_measure _).imp
          (fun _ _ h => ⟨[], tells_nothing h (.unchanged (Or.inl due))⟩) fun _ _ h => tells_failed h
      · simp only [ends_bind, ends_during]
        refine (ends_updateEntity w₁ id desired).imp ?_ ?_
        · rintro e' w₂ ⟨hevents, hupdates⟩
          simp only [Resource.countOperation, ends_measure, ends_publish, ends_pure]
          rw [h₁.updates] at hupdates
          have htells {ok : Bool} : g.Tells r w { w₂ with
              metrics := w₂.metrics.recordOperation k.name Operation.update.name
              events := w₂.events ++ [⟨.normal, .updated, s!"Updated remote entity {id}"⟩] } ok _ :=
            ⟨.updated due, by rw [hevents, h₁.events], hupdates⟩
          exact ((quiet_requests _).observe (.refl _) fun _ => quiet_measure _).imp
            (fun _ _ h => ⟨_, htells.quiet h⟩) fun _ _ h => ⟨_, htells.quiet h⟩
        · intro f w₂ h₂
          exact tells_failed ⟨h₂.events.trans h₁.events, h₂.updates.trans h₁.updates⟩
  · rintro f w₁ ⟨hget, h₁⟩
    split
    · next hcause =>
      have hdenied : w.Denies id := ⟨f, w₁, hget, by rw [hcause]; rfl⟩
      simp only [ends_bind, ends_publish, ends_discard]
      have htells {message : String} : g.Tells r w { w₁ with
          events := w₁.events ++ [⟨.warning, .remoteNotFound, message⟩] } false _ :=
        tells_publish h₁ (.missed due hid hdenied) (by simp)
      refine ((quiet_requests _).writeStatus r none _ (.refl _)).imp ?_ ?_
      · intro _ w₂ h₂
        exact ⟨_, htells.quiet ⟨h₂.events, h₂.updates⟩⟩
      · intro f₂ w₂ h₂
        exact ⟨_, htells.quiet h₂⟩
    · exact tells_failed h₁

/-- What is due is announced once it is done, and before that at most what became of the entity. -/
theorem tells_transition (g : Engine k) (r : Resource k) (w : World k) :
    Ends (g.transition r) w (fun _ w' => ∃ told, g.Tells r w w' true told)
      (fun _ w' => ∃ told, g.Tells r w w' false told) := by
  have hrequests := quiet_requests w
  unfold transition
  cases due : g.lifecycle r with
  | pendingCreation =>
    simp only [pendingCreation, ends_bind, ends_during]
    refine (quiet_create w (.refl w)).imp (fun _ w₁ h₁ => ?_) fun _ _ h => tells_failed h
    refine (hrequests.load _ w₁ h₁).imp (fun loaded w₂ h₂ => ?_) fun _ _ h => tells_failed h
    cases loaded with
    | none => exact tells_failed h₂
    | some created =>
      simp only [ends_bind, ends_during, ends_publish, ends_pure]
      refine (hrequests.ensureFinalizer w₂ h₂).imp (fun _ w₃ h₃ => ?_) fun _ _ h => tells_failed h
      exact ⟨_, tells_publish h₃ (.created due) (by simp)⟩
  | pendingDeletion =>
    simp only [pendingDeletion, ends_bind, ends_during, ends_publish, ends_pure]
    refine (quiet_delete w (.refl w)).imp (fun _ w₁ h₁ => ?_) fun _ _ h => tells_failed h
    refine (hrequests.removeFinalizer w₁ h₁).imp (fun _ w₂ h₂ => ?_) fun _ _ h => tells_failed h
    exact ⟨_, tells_publish h₂ (.deleted due) (by simp)⟩
  | outOfScope =>
    simp only [outOfScope]
    split
    · next hrecorded =>
      simp only [ends_bind, ends_during, ends_publish, ends_pure]
      refine (quiet_delete w (.refl w)).imp (fun _ w₁ h₁ => ?_) fun _ _ h => tells_failed h
      have hid : r.remoteId ≠ none := Option.isSome_iff_ne_none.1 hrecorded
      exact ⟨_, tells_publish h₁ (.tornDown due hid) (by simp)⟩
    · exact ⟨[], tells_nothing (.refl w) (.unchanged (Or.inr due))⟩
  | active =>
    simp only [active, ends_bind, ends_during]
    refine (tells_update due).imp (fun _ w₁ h₁ => ?_) fun _ _ h => h
    cases g.successRequeue <;> exact h₁

/-- Once the object is loaded, a pass is what is due for it and a note of how that ended. -/
theorem ends_reconcile_of_load {key : ObjectKey} {elapsed : Duration} {w₀ : World k}
    {Q : NextPass → World k → Prop} {E : Failure → World k → Prop}
    (hload : load key w = .ok (some r) w₀) : Ends (g.reconcile key elapsed) w Q E ↔
      Ends (g.transition r) w₀
        (fun next w' => Q next { w' with
          metrics := w'.metrics.recordReconcile k.name Outcome.success.name elapsed })
        (fun f w' => E f { w' with
          events := w'.events ++ [⟨.warning, f.reason, f.text⟩]
          metrics := w'.metrics.recordReconcile k.name Outcome.error.name elapsed }) := by
  have hload' {Q : Option (Resource k) → World k → Prop} {E : Failure → World k → Prop} :
      Ends (load key) w Q E ↔ Q (some r) w₀ := by simp only [Ends, hload]
  simp only [reconcile, ends_bind, ends_during, hload', ends_attempt]
  rfl

/-- Where no object is loaded nothing is published. -/
theorem quiet_reconcile {key : ObjectKey} {elapsed : Duration}
    (hload : ∀ r w₀, load key w ≠ .ok (some r) w₀) :
    w.Quiet (after (g.reconcile key elapsed) w) := by
  refine Ends.after (P := w.Quiet) ?_
  unfold reconcile
  simp only [ends_bind, ends_during]
  refine ((quiet_requests w).load key w (.refl w)).tracked.imp ?_ fun _ _ h => h.2
  rintro o w₁ ⟨hloaded, hquiet⟩
  cases o with
  | none => exact ⟨hquiet.events, hquiet.updates⟩
  | some r => exact absurd hloaded (hload r w₁)

theorem events_of_load {key : ObjectKey} {o : Option (Resource k)} {w₀ : World k}
    (hload : load key w = .ok o w₀) : w₀.events = w.events :=
  (((quiet_requests w).load key w (.refl w)).of_ok hload).events

end Engine

end ResourceSync
