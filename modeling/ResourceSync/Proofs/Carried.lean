import ResourceSync.Engine.Pass
import ResourceSync.Proofs.Ends

/-! A pass is put together from a few kinds of steps: what each of them carries on, the whole pass
carries on. -/
namespace ResourceSync.World

variable {k : Kind} {α β : Type} {I J : World k → Prop} {x : Run k α} {y : α → Run k β}
  {r : Resource k} {w : World k}

/-- What holds before the step holds after it, however the step ends. -/
def Carries (I : World k → Prop) (x : Run k α) : Prop :=
  ∀ w, I w → Ends x w (fun _ => I) (fun _ => I)

theorem carries_pure (a : α) : Carries I (pure a : Run k α) := fun _ h => h

theorem carries_throw (f : Failure) : Carries I (throw f : Run k α) := fun _ h => h

theorem Carries.bind (hx : Carries I x) (hy : ∀ a, Carries I (y a)) : Carries I (x >>= y) := by
  intro w h
  rw [ends_bind]
  exact (hx w h).imp (fun a w₁ h₁ => hy a w₁ h₁) fun _ _ h => h

/-- What would follow a failure does not matter. -/
theorem carries_throw_bind (f : Failure) : Carries I ((throw f : Run k α) >>= y) := fun _ h => h

theorem Carries.discard (hx : Carries I x) : Carries I (discard x) := fun w h =>
  ends_discard.2 (hx w h)

theorem Carries.attempt (hx : Carries I x) : Carries I (attempt x) := fun w h =>
  ends_attempt.2 (hx w h)

theorem Carries.during {context : String} (hx : Carries I x) : Carries I (during context x) :=
  fun w h => ends_during.2 (hx w h)

/-- A change of the platform with the note that is taken when it went through. -/
def counted (operation : Operation) (x : Run k α) : Run k α := do
  let a ← x
  Resource.countOperation k operation
  return a

/-- The requests that change nothing on the platform carry on what holds. -/
structure CarriedByRequests (I : World k → Prop) : Prop where
  load : ∀ key, Carries I (load key)
  patchFinalizers : ∀ r finalizers, Carries I (patchFinalizers r finalizers)
  writeStatus : ∀ r status, Carries I (writeStatus r status)
  getEntity : ∀ id, Carries I (getEntity id)

namespace CarriedByRequests
variable (hI : CarriedByRequests I)
include hI

omit hI in
theorem body : Carries I r.body := by
  unfold Resource.body
  cases r.desiredBody with
  | ok b => exact carries_pure b
  | error e => exact carries_throw _

/-- The end of a creation or an update, after which the resource is noted to be in step. -/
theorem observe {stored : Resource k} {e : Entity k.Body} (hw : I w)
    (htrack : ∀ w, I w → Ends r.track w (fun _ => J) (fun _ => I)) :
    Ends (if stored.status ≠ some (k.observedStatus e) then do
        discard (World.writeStatus stored (some (k.observedStatus e)))
        r.track
      else r.track) w (fun _ => J) (fun _ => I) := by
  split
  · rw [ends_bind, ends_discard]
    exact (hI.writeStatus _ _ w hw).imp (fun _ w₁ h => htrack w₁ h) fun _ _ h => h
  · exact htrack w hw

theorem create (hw : I w)
    (hcreated : ∀ b, Ends (counted .create (World.createEntity b)) w (fun _ => I) (fun _ => I))
    (hundone : ∀ id, Carries I (World.deleteEntity (k := k) id))
    (htrack : ∀ w, I w → Ends r.track w (fun _ => J) (fun _ => I)) :
    Ends r.createEntity w (fun _ => J) (fun _ => I) := by
  unfold Resource.createEntity Resource.body
  cases r.desiredBody with
  | error e => exact hw
  | ok b =>
    have hcreate := hcreated b
    simp only [counted, ends_bind] at hcreate
    simp only [ends_bind, ends_during, ends_attempt, ends_discard, ends_pure, ends_throw]
    refine hcreate.imp (fun id w₁ h₁ => ?_) fun _ _ h => h
    refine Ends.imp h₁ (fun _ w₂ h₂ => ?_) fun _ _ h => h
    refine (hI.writeStatus _ _ w₂ h₂).imp ?_ ?_
    · intro stored w₃ h₃
      exact (hI.getEntity id w₃ h₃).imp (fun e w₄ h₄ => hI.observe h₄ htrack) fun _ _ h => h
    · intro f w₃ h₃
      exact hundone id w₃ h₃

omit hI in
/-- A deletion is noted, where there is an entity to delete. -/
theorem delete (hw : I w)
    (hdeleted : ∀ id, Ends (counted .delete (World.deleteEntity id)) w (fun _ => I) (fun _ => I))
    (huntrack : ∀ w, I w → Ends r.untrack w (fun _ => J) (fun _ => I)) :
    Ends r.deleteEntity w (fun _ w' => if r.remoteId = none then I w' else J w')
      (fun _ => I) := by
  unfold Resource.deleteEntity
  cases hid : r.remoteId with
  | none => exact hw
  | some id =>
    have hdelete := hdeleted id
    simp only [counted, ends_bind] at hdelete
    simp only [ends_bind, ends_attempt, if_neg (Option.some_ne_none id)]
    refine hdelete.imp (fun _ w₁ h₁ => ?_) ?_
    · exact Ends.imp h₁ (fun _ w₂ h₂ => huntrack w₂ h₂) fun _ _ h => h
    · intro f w₁ h₁
      split
      · exact huntrack w₁ h₁
      · exact h₁

theorem ensureFinalizer {finalizer : String} : Carries I (ensureFinalizer r finalizer) := by
  unfold ResourceSync.ensureFinalizer
  split
  · exact carries_pure ()
  · exact hI.patchFinalizers _ _

theorem removeFinalizer {finalizer : String} : Carries I (removeFinalizer r finalizer) := by
  unfold ResourceSync.removeFinalizer
  split
  · exact hI.patchFinalizers _ _
  · exact carries_pure ()

end CarriedByRequests

/-- The calls that change nothing on the platform carry on what holds. -/
structure CarriedBySteps (I : World k → Prop) : Prop extends CarriedByRequests I where
  publish : ∀ severity reason message, Carries I (publish severity reason message)

namespace CarriedBySteps
variable (hI : CarriedBySteps I)
include hI

theorem update (hupdated : ∀ id b, Carries I (counted .update (World.updateEntity id b)))
    (htrack : Carries I r.track) (huntrack : Carries I r.untrack) : Carries I r.updateEntity := by
  have hobserve (e : Entity k.Body) : Carries I (if r.status ≠ some (k.observedStatus e) then do
      discard (World.writeStatus r (some (k.observedStatus e)))
      r.track
    else r.track) := fun w hw => hI.observe hw htrack
  unfold Resource.updateEntity
  refine (hI.getEntity _).attempt.bind ?_
  intro found
  cases found with
  | ok e =>
    refine (carries_pure e).bind fun e => CarriedByRequests.body.bind ?_
    intro desired
    dsimp only
    split
    · exact (carries_pure e).bind fun e => hobserve e
    · intro w hw
      have hupdate := hupdated (r.remoteId.getD "") desired w hw
      simp only [counted, ends_bind] at hupdate
      simp only [ends_bind, ends_during, ends_pure]
      refine hupdate.imp (fun updated w₁ h₁ => ?_) fun _ _ h => h
      refine Ends.imp h₁ (fun _ w₂ h₂ => ?_) fun _ _ h => h
      exact (hI.publish _ _ _ w₂ h₂).imp (fun _ w₃ h₃ => hobserve updated w₃ h₃) fun _ _ h => h
  | error f =>
    dsimp only
    split
    · exact (hI.publish _ _ _).bind fun _ => (hI.writeStatus _ _).discard.bind fun _ =>
        huntrack.bind fun _ => carries_throw_bind _
    · exact carries_throw_bind _

/-- What is due is done by one of three procedures and by calls that change nothing on the
platform. -/
theorem transition (g : Engine k)
    (hcreate : g.lifecycle r = .pendingCreation →
      Ends r.createEntity w (fun _ => I) (fun _ => I))
    (hupdate : g.lifecycle r = .active → Ends r.updateEntity w (fun _ => I) (fun _ => I))
    (hdelete : g.lifecycle r = .pendingDeletion ∨ g.lifecycle r = .outOfScope →
      Ends r.deleteEntity w (fun _ => I) (fun _ => I)) (hw : I w) :
    Ends (g.transition r) w (fun _ => I) (fun _ => I) := by
  unfold Engine.transition
  cases due : g.lifecycle r with
  | pendingCreation =>
    simp only [Engine.pendingCreation, ends_bind, ends_during]
    refine (hcreate due).imp (fun _ w₁ h₁ => ?_) fun _ _ h => h
    refine (hI.load _ w₁ h₁).imp (fun loaded w₂ h₂ => ?_) fun _ _ h => h
    cases loaded with
    | none => exact h₂
    | some created =>
      exact (hI.ensureFinalizer.during.bind fun _ => (hI.publish _ _ _).bind fun _ =>
        carries_pure _) w₂ h₂
  | pendingDeletion =>
    simp only [Engine.pendingDeletion, ends_bind, ends_during]
    refine (hdelete (Or.inl due)).imp (fun _ w₁ h₁ => ?_) fun _ _ h => h
    refine (hI.removeFinalizer w₁ h₁).imp (fun _ w₂ h₂ => ?_) fun _ _ h => h
    exact (hI.publish _ _ _ w₂ h₂).imp (fun _ _ h => h) fun _ _ h => h
  | outOfScope =>
    simp only [Engine.outOfScope]
    split
    · simp only [ends_bind, ends_during]
      refine (hdelete (Or.inr due)).imp (fun _ w₁ h₁ => ?_) fun _ _ h => h
      exact (hI.publish _ _ _ w₁ h₁).imp (fun _ _ h => h) fun _ _ h => h
    · exact hw
  | active =>
    simp only [Engine.active, ends_bind, ends_during]
    refine (hupdate due).imp (fun _ w₁ h₁ => ?_) fun _ _ h => h
    cases g.successRequeue with
    | none => exact h₁
    | some d => exact h₁

end CarriedBySteps

/-- Each call that a pass makes and each note that it takes carries on what holds, but for the note
of how the pass ended. -/
structure CarriedByCalls (I : World k → Prop) : Prop extends CarriedBySteps I where
  createEntity : ∀ b, Carries I (createEntity b)
  updateEntity : ∀ id b, Carries I (updateEntity id b)
  deleteEntity : ∀ id, Carries I (deleteEntity id)
  countOperation : ∀ operation, Carries I (Resource.countOperation k operation)
  track : ∀ r : Resource k, Carries I r.track
  untrack : ∀ r : Resource k, Carries I r.untrack

namespace CarriedByCalls
variable (hI : CarriedByCalls I)
include hI

theorem counted {operation : Operation} (hx : Carries I x) :
    Carries I (World.counted operation x) :=
  hx.bind fun a => (hI.countOperation operation).bind fun _ => carries_pure a

theorem transition (g : Engine k) : Carries I (g.transition r) := by
  intro w hw
  refine hI.toCarriedBySteps.transition g (fun _ => ?_) (fun _ => ?_) (fun _ => ?_) hw
  · exact hI.create hw (fun b => hI.counted (hI.createEntity b) w hw) hI.deleteEntity (hI.track r)
  · exact hI.update (fun id b => hI.counted (hI.updateEntity id b)) (hI.track r) (hI.untrack r) w hw
  · refine (CarriedByRequests.delete hw (fun id => hI.counted (hI.deleteEntity id) w hw)
      (hI.untrack r)).imp (fun _ _ h => ?_) fun _ _ h => h
    exact (ite_self _).mp h

/-- What also the note of its end carries on, a pass carries on. -/
theorem reconcile (g : Engine k) (key : ObjectKey) (elapsed : Duration)
    (hend : ∀ outcome, Carries I (Engine.recordOutcome (k := k) outcome elapsed)) :
    Carries I (g.reconcile key elapsed) := by
  unfold Engine.reconcile
  refine (hI.load key).during.bind ?_
  intro loaded
  cases loaded with
  | none => exact (hend _).bind fun _ => carries_pure _
  | some r =>
    refine (hI.transition g).attempt.bind ?_
    intro result
    cases result with
    | ok next => exact (hend _).bind fun _ => carries_pure next
    | error f => exact (hI.publish _ _ _).bind fun _ => (hend _).bind fun _ => carries_throw f

end CarriedByCalls

end ResourceSync.World
