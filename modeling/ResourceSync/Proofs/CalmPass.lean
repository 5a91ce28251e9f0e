import ResourceSync.Proofs.Calm
import ResourceSync.Proofs.Course

/-! While nothing fails, a pass takes its course. -/
namespace ResourceSync

variable {k : Kind}

namespace World

/-- What has become of a world in which a pass on the object under a key has run so far. -/
structure Follows (key : ObjectKey) (w : World k) (c : Course k) (v : Option String)
    (w' : World k) : Prop where
  calm : w'.Calm
  objects : w'.store.get? =
    Function.update w.store.get? key (c.object.map (Resource.versioned v))
  entities : w'.platform.entity? = c.entities w.platform.entity?
  nextId : w'.platform.nextId = if c.creates then w.platform.laterId else w.platform.nextId
  metrics : w'.metrics = w.metrics.noted k.name c.notes
  events : w'.events = w.events ++ c.events

namespace Follows
variable {key : ObjectKey} {w w₁ w₂ : World k} {c : Course k} {v : Option String} {r : Resource k}
  {id : String} {b : k.Body} {e : Entity k.Body}

theorem start (hw : w.Calm) (hr : w.store.get? key = some r) :
    Follows key w (.start r) r.metadata.resourceVersion w :=
  ⟨hw, (Function.update_eq_self_iff.2 hr.symm).symm, rfl, rfl, rfl, (List.append_nil _).symm⟩

theorem start_none (hw : w.Calm) (hnone : w.store.get? key = none) :
    Follows key w (.start none) none w :=
  ⟨hw, (Function.update_eq_self_iff.2 hnone.symm).symm, rfl, rfl, rfl, (List.append_nil _).symm⟩

/-- What follows a load follows what was before it. -/
theorem of_loaded {w₀ : World k} (h : Follows key w c v w₁) (hstep : StoreStep w₀ w)
    (hs : w.store = w₀.store) : Follows key w₀ c v w₁ where
  calm := h.calm
  objects := hs ▸ h.objects
  entities := hstep.platform ▸ h.entities
  nextId := hstep.platform ▸ h.nextId
  metrics := hstep.metrics ▸ h.metrics
  events := hstep.events ▸ h.events

theorem get?_eq (h : Follows key w c v w₁) (hc : c.object = some r) :
    w₁.store.get? key = some (r.versioned v) := by
  rw [h.objects, Function.update_self, hc, Option.map_some]

/-- Until an entity is touched the platform holds what it held. -/
theorem entity?_eq (h : Follows key w c v w₁) (hc : c.entity = none) :
    w₁.platform.entity? = w.platform.entity? := by
  rw [h.entities, Course.entities, hc]

theorem noted (h : Follows key w c v w₁) (n : Note) :
    Follows key w (c.noted n) v { w₁ with metrics := w₁.metrics.note k.name n } where
  calm := h.calm.carried _ _
  objects := h.objects
  entities := h.entities
  nextId := h.nextId
  metrics := by simp only [h.metrics, Metrics.noted, Course.noted, List.foldl_append,
    List.foldl_cons, List.foldl_nil]
  events := h.events

theorem told (h : Follows key w c v w₁) (severity : Severity) (reason : Reason)
    (message : String) : Follows key w (c.told severity reason message) v
      { w₁ with events := w₁.events ++ [⟨severity, reason, message⟩] } where
  calm := h.calm.carried _ _
  objects := h.objects
  entities := h.entities
  nextId := h.nextId
  metrics := h.metrics
  events := by simp only [h.events, Course.told, List.append_assoc]

/-- A call of the store goes on from where the pass is. -/
theorem storeStep {v' : Option String} {o : Option (Resource k)} (h : Follows key w c v w₁)
    (hcalm : w₂.Calm) (hstep : StoreStep w₁ w₂)
    (ho : w₂.store.get? = Function.update w₁.store.get? key (o.map (Resource.versioned v'))) :
    Follows key w (c.becoming o) v' w₂ where
  calm := hcalm
  objects := by rw [ho, h.objects, Function.update_idem]; rfl
  entities := (congrArg Platform.entity? hstep.platform).trans h.entities
  nextId := (congrArg Platform.nextId hstep.platform).trans h.nextId
  metrics := hstep.metrics.trans h.metrics
  events := hstep.events.trans h.events

theorem load (h : Follows key w c v w₁) (hc : c.object = some r) : Ends (World.load key) w₁
    (fun o w₂ => o = some (r.versioned v) ∧ Follows key w c v w₂) (fun _ _ => False) := by
  refine (calm_load h.calm).imp ?_ fun _ _ h => h
  rintro o w₂ ⟨hcalm, hstep, hs, rfl⟩
  refine ⟨h.get?_eq hc, hcalm, (congrArg Store.get? hs).trans h.objects, ?_, ?_, ?_, ?_⟩
  · exact (congrArg Platform.entity? hstep.platform).trans h.entities
  · exact (congrArg Platform.nextId hstep.platform).trans h.nextId
  · exact hstep.metrics.trans h.metrics
  · exact hstep.events.trans h.events

theorem writeStatus (h : Follows key w c v w₁) (hc : c.object = some r) (hkey : r.key = key)
    (status : Option k.Status) : Ends (World.writeStatus (r.versioned v) status) w₁
      (fun r' w₂ => ∃ v', r' = Resource.versioned v' { r with status := status } ∧
        Follows key w (c.becoming (some { r with status := status })) v' w₂)
      (fun _ _ => False) := by
  subst hkey
  refine (calm_writeStatus (r := r.versioned v) h.calm (h.get?_eq hc) rfl).imp ?_ fun _ _ h => h
  rintro r' w₂ ⟨hcalm, hstep, rfl, ho⟩
  exact ⟨_, rfl, h.storeStep hcalm hstep ho⟩

theorem patchFinalizers (h : Follows key w c v w₁) (hc : c.object = some r) (hkey : r.key = key)
    (finalizers : List String) : Ends (World.patchFinalizers (r.versioned v) finalizers) w₁
      (fun _ w₂ => ∃ v', Follows key w (c.becoming (r.refinalized finalizers)) v' w₂)
      (fun _ _ => False) := by
  subst hkey
  refine (calm_patchFinalizers h.calm (h.get?_eq hc)).imp ?_ fun _ _ h => h
  rintro - w₂ ⟨hcalm, hstep, ho⟩
  refine ⟨some (toString w₁.store.nextVersion), h.storeStep hcalm hstep ?_⟩
  have hrefinalized : w₁.store.refinalized (r.versioned v) finalizers = (r.refinalized
      finalizers).map (Resource.versioned (some (toString w₁.store.nextVersion))) := by
    unfold Store.refinalized Resource.refinalized
    split_ifs <;> first | rfl | contradiction
  rw [ho, hrefinalized]

/-- A call of the platform goes on from where the pass is. -/
theorem platformStep (h : Follows key w c v w₁) (hcalm : w₂.Calm) (hstep : PlatformStep w₁ w₂)
    (hid : w₂.platform.nextId = w₁.platform.nextId)
    (he : w₂.platform.entity? = w₁.platform.entity?) : Follows key w c v w₂ where
  calm := hcalm
  objects := (congrArg Store.get? hstep.store).trans h.objects
  entities := he.trans h.entities
  nextId := hid.trans h.nextId
  metrics := hstep.metrics.trans h.metrics
  events := hstep.events.trans h.events

/-- The first change of an entity. -/
theorem changing {o : Option (Entity k.Body)} (h : Follows key w c v w₁) (hc : c.entity = none)
    (hcalm : w₂.Calm) (hstep : PlatformStep w₁ w₂)
    (hid : w₂.platform.nextId = w₁.platform.nextId)
    (he : w₂.platform.entity? = Function.update w₁.platform.entity? id o) :
    Follows key w (c.changed id o) v w₂ where
  calm := hcalm
  objects := (congrArg Store.get? hstep.store).trans h.objects
  entities := by rw [he, h.entity?_eq hc]; rfl
  nextId := hid.trans h.nextId
  metrics := hstep.metrics.trans h.metrics
  events := hstep.events.trans h.events

/-- An entity is created before anything else is done. -/
theorem createEntity (hw : w.Calm) (hr : w.store.get? key = some r) :
    Ends (World.createEntity b) w (fun id w₁ => id = w.platform.nextId ∧
      Follows key w ((Course.start r).made (Platform.newborn id b)) r.metadata.resourceVersion w₁)
      (fun _ _ => False) := by
  refine (calm_createEntity hw).imp ?_ fun _ _ h => h
  rintro id w₁ ⟨hcalm, hstep, rfl, hid, he⟩
  refine ⟨rfl, hcalm, ?_, he, hid, hstep.metrics, ?_⟩
  · rw [hstep.store]
    exact (start hw hr).objects
  · rw [hstep.events]
    exact (start hw hr).events

theorem getEntity (h : Follows key w c v w₁) (he : w₁.platform.entity? id = some e) :
    Ends (World.getEntity id) w₁ (fun e' w₂ => e' = e ∧ Follows key w c v w₂) (fun _ _ => False) := by
  refine (calm_getEntity h.calm he).imp ?_ fun _ _ h => h
  rintro e' w₂ ⟨hcalm, hstep, rfl, hp⟩
  exact ⟨rfl, h.platformStep hcalm hstep (hp ▸ rfl) (hp ▸ rfl)⟩

theorem getEntity_of_none (h : Follows key w c v w₁) (he : w₁.platform.entity? id = none) :
    Ends (World.getEntity id : Run k (Entity k.Body)) w₁ (fun _ _ => False)
      (fun f w₂ => f = .ofRemote (.notFound (Platform.entityPath id)) ∧ Follows key w c v w₂) := by
  refine (calm_getEntity_of_none h.calm he).imp (fun _ _ h => h) ?_
  rintro f w₂ ⟨hcalm, hstep, rfl, hp⟩
  exact ⟨rfl, h.platformStep hcalm hstep (hp ▸ rfl) (hp ▸ rfl)⟩

theorem updateEntity (h : Follows key w c v w₁) (hc : c.entity = none)
    (he : w₁.platform.entity? id = some e) : Ends (World.updateEntity id b) w₁
      (fun e' w₂ => e' = Platform.renewed e b ∧ Follows key w (c.changed id (some e')) v w₂)
      (fun _ _ => False) := by
  refine (calm_updateEntity h.calm he).imp ?_ fun _ _ h => h
  rintro e' w₂ ⟨hcalm, hstep, rfl, hid, he'⟩
  exact ⟨rfl, h.changing hc hcalm hstep hid he'⟩

theorem deleteEntity (h : Follows key w c v w₁) (hc : c.entity = none)
    (he : w₁.platform.entity? id = some e) : Ends (World.deleteEntity id) w₁
      (fun _ w₂ => Follows key w (c.changed id none) v w₂) (fun _ _ => False) := by
  refine (calm_deleteEntity h.calm he).imp ?_ fun _ _ h => h
  rintro - w₂ ⟨hcalm, hstep, hid, he'⟩
  exact h.changing hc hcalm hstep hid he'

theorem deleteEntity_of_none (h : Follows key w c v w₁) (he : w₁.platform.entity? id = none) :
    Ends (World.deleteEntity id) w₁ (fun _ _ => False)
      (fun f w₂ => f = .ofRemote (.notFound (Platform.entityPath id)) ∧ Follows key w c v w₂) := by
  refine (calm_deleteEntity_of_none h.calm he).imp (fun _ _ h => h) ?_
  rintro f w₂ ⟨hcalm, hstep, rfl, hid, he'⟩
  exact ⟨rfl, h.platformStep hcalm hstep hid he'⟩

theorem ensureFinalizer (h : Follows key w c v w₁) (hc : c.object = some r) (hkey : r.key = key) :
    Ends (ensureFinalizer (r.versioned v) k.finalizer) w₁
      (fun _ w₂ => ∃ v', Follows key w (c.becoming r.guarded) v' w₂) (fun _ _ => False) := by
  unfold ResourceSync.ensureFinalizer Resource.guarded
  by_cases hfin : r.hasFinalizer k.finalizer = true
  · have hsame : (r.versioned v).hasFinalizer k.finalizer = true := hfin
    rw [if_pos hfin, if_pos hsame, Course.becoming_self hc]
    exact ⟨v, h⟩
  · have hsame : ¬ (r.versioned v).hasFinalizer k.finalizer = true := hfin
    rw [if_neg hfin, if_neg hsame]
    exact h.patchFinalizers hc hkey _

theorem removeFinalizer (h : Follows key w c v w₁) (hc : c.object = some r) (hkey : r.key = key) :
    Ends (removeFinalizer (r.versioned v) k.finalizer) w₁
      (fun _ w₂ => ∃ v', Follows key w (c.becoming r.freed) v' w₂) (fun _ _ => False) := by
  unfold ResourceSync.removeFinalizer Resource.freed
  by_cases hfin : r.hasFinalizer k.finalizer = true
  · have hsame : (r.versioned v).hasFinalizer k.finalizer = true := hfin
    rw [if_pos hfin, if_pos hsame]
    exact h.patchFinalizers hc hkey _
  · have hsame : ¬ (r.versioned v).hasFinalizer k.finalizer = true := hfin
    rw [if_neg hfin, if_neg hsame, Course.becoming_self hc]
    exact ⟨v, h⟩

/-- An entity is observed, and the status written if it tells of anything else. -/
theorem observe {tracked : Resource k} (h : Follows key w c v w₁) (hc : c.object = some r)
    (hkey : r.key = key) :
    Ends (if (r.versioned v).status ≠ some (k.observedStatus e) then do
        discard (World.writeStatus (r.versioned v) (some (k.observedStatus e)))
        tracked.track
      else tracked.track) w₁
      (fun _ w₂ => ∃ v', Follows key w
        ((c.becoming (some (r.observing e))).noted (.stands tracked.key (some tracked.typeLabel)))
        v' w₂) (fun _ _ => False) := by
  split
  · simp only [ends_bind, ends_discard]
    refine (h.writeStatus hc hkey _).imp ?_ fun _ _ h => h
    rintro - w₂ ⟨v', -, h₂⟩
    exact ⟨v', h₂.noted _⟩
  · next heq =>
    have hsame : r.observing e = r := by
      have hstatus : r.status = some (k.observedStatus e) := not_not.1 heq
      rw [Resource.observing, ← hstatus]
    rw [hsame, Course.becoming_self hc]
    exact ⟨v, h.noted _⟩

/-- The entity is deleted, or was gone. -/
theorem delete {held : Option (Entity k.Body)} (h : Follows key w c v w₁) (hc : c.entity = none)
    (hheld : r.remoteId.bind w₁.platform.entity? = held) : Ends r.deleteEntity w₁
      (fun _ w₂ => Follows key w (c.tornDown r held) v w₂) (fun _ _ => False) := by
  unfold Resource.deleteEntity Course.tornDown
  cases hid : r.remoteId with
  | none => exact h
  | some id =>
    rw [hid, Option.bind_some] at hheld
    simp only [ends_bind, ends_attempt, Resource.countOperation, Resource.untrack, ends_measure]
    cases held with
    | some e =>
      refine (h.deleteEntity hc hheld).imp ?_ fun _ _ h => h.elim
      intro _ w₂ h₂
      exact (h₂.noted (.operation .delete)).noted (.stands r.key none)
    | none =>
      refine (h.deleteEntity_of_none hheld).imp (fun _ _ h => h.elim) ?_
      rintro f w₂ ⟨rfl, h₂⟩
      exact h₂.noted (.stands r.key none)

end Follows

section procedures
variable {g : Engine k} {key : ObjectKey} {w : World k} {r : Resource k}

/-- A step ends as was worked out, and leaves what was worked out. -/
def Runs (x : Run k NextPass) (key : ObjectKey) (w : World k)
    (outcome : Except Failure NextPass × Course k) : Prop :=
  Ends x w (fun next w' => outcome.1 = .ok next ∧ ∃ v, Follows key w outcome.2 v w')
    (fun f w' => outcome.1 = .error f ∧ ∃ v, Follows key w outcome.2 v w')

theorem Runs.result_eq {x : Run k NextPass} {outcome : Except Failure NextPass × Course k}
    (h : Runs x key w outcome) : result x w = outcome.1 := by
  cases hx : x w with
  | ok next w' => simpa only [result, hx] using (h.of_ok hx).1.symm
  | error f w' => simpa only [result, hx] using (h.of_error hx).1.symm

theorem Runs.follows {x : Run k NextPass} {outcome : Except Failure NextPass × Course k}
    (h : Runs x key w outcome) : ∃ v, Follows key w outcome.2 v (after x w) :=
  Ends.after (P := fun w' => ∃ v, Follows key w outcome.2 v w')
    (h.imp (fun _ _ h => h.2) fun _ _ h => h.2)

theorem Runs.ends_ok {x : Run k NextPass} {outcome : Except Failure NextPass × Course k}
    {next : NextPass} (h : Runs x key w outcome) (hok : outcome.1 = .ok next) :
    Ends x w (fun _ w' => ∃ v, Follows key w outcome.2 v w') fun _ _ => False :=
  h.imp (fun _ _ h => h.2) fun _ _ h => nomatch hok.symm.trans h.1

theorem Runs.ends_error {x : Run k NextPass} {outcome : Except Failure NextPass × Course k}
    {f : Failure} (h : Runs x key w outcome) (herror : outcome.1 = .error f) :
    Ends x w (fun _ _ => False) fun _ w' => ∃ v, Follows key w outcome.2 v w' :=
  h.imp (fun _ _ h => nomatch herror.symm.trans h.1) fun _ _ h => h.2

theorem creation_runs (hw : w.Calm) (hr : w.store.get? r.key = some r) :
    Runs (Engine.pendingCreation r) r.key w (Engine.creation r w.platform.nextId) := by
  unfold Runs Engine.pendingCreation Resource.createEntity Engine.creation
  cases hb : r.desiredBody with
  | error e =>
    simp only [ends_bind, ends_during, Resource.body, hb, ends_throw]
    exact ⟨rfl, _, .start hw hr⟩
  | ok b =>
    simp only [ends_bind, ends_during, ends_attempt, ends_discard, ends_pure, ends_throw,
      ends_measure, Resource.countOperation, Resource.body, hb]
    refine (Follows.createEntity hw hr).imp ?_ fun _ _ h => h.elim
    rintro id w₁ ⟨rfl, h₁⟩
    refine Ends.imp ((h₁.noted (.operation .create)).writeStatus rfl rfl _) ?_ fun _ _ h => h.elim
    rintro r₂ w₂ ⟨v₂, rfl, h₂⟩
    have hheld : w₂.platform.entity? w.platform.nextId =
        some (Platform.newborn w.platform.nextId b) := by
      rw [h₂.entities]
      exact Function.update_self _ _ _
    refine (h₂.getEntity hheld).imp ?_ fun _ _ h => h.elim
    rintro e w₃ ⟨rfl, h₃⟩
    refine (h₃.observe rfl rfl).imp ?_ fun _ _ h => h.elim
    rintro - w₄ ⟨v₄, h₄⟩
    refine (h₄.load rfl).imp ?_ fun _ _ h => h.elim
    rintro o w₅ ⟨rfl, h₅⟩
    simp only [ends_bind, ends_during, ends_publish, ends_pure]
    refine (h₅.ensureFinalizer rfl rfl).imp ?_ fun _ _ h => h.elim
    rintro - w₆ ⟨v₆, h₆⟩
    refine ⟨trivial, v₆, ?_⟩
    exact h₆.told _ _ _

theorem deletion_runs (hw : w.Calm) (hr : w.store.get? r.key = some r) :
    Runs (Engine.pendingDeletion r) r.key w
      (Engine.deletion r (r.remoteId.bind w.platform.entity?)) := by
  unfold Runs Engine.pendingDeletion Engine.deletion
  simp only [ends_bind, ends_during, ends_publish, ends_pure]
  refine ((Follows.start hw hr).delete rfl rfl).imp ?_ fun _ _ h => h.elim
  intro _ w₁ h₁
  have hobject : ((Course.start (some r)).tornDown r (r.remoteId.bind w.platform.entity?)).object =
      some r := Course.object_tornDown _ _ _
  refine (h₁.removeFinalizer hobject rfl).imp ?_ fun _ _ h => h.elim
  rintro - w₂ ⟨v, h₂⟩
  exact ⟨trivial, v, h₂.told _ _ _⟩

theorem withdrawal_runs (hw : w.Calm) (hr : w.store.get? r.key = some r) :
    Runs (Engine.outOfScope r) r.key w
      (Engine.withdrawal r (r.remoteId.bind w.platform.entity?)) := by
  unfold Runs Engine.outOfScope Engine.withdrawal
  by_cases hid : r.remoteId.isSome = true
  · rw [if_pos hid, if_pos hid]
    simp only [ends_bind, ends_during, ends_publish, ends_pure]
    refine ((Follows.start hw hr).delete rfl rfl).imp ?_ fun _ _ h => h.elim
    intro _ w₁ h₁
    exact ⟨trivial, _, h₁.told _ _ _⟩
  · rw [if_neg hid, if_neg hid]
    exact ⟨rfl, _, .start hw hr⟩

theorem update_runs {held : Option (Entity k.Body)} (hw : w.Calm)
    (hr : w.store.get? r.key = some r) (hid : r.remoteId ≠ none)
    (hheld : r.remoteId.bind w.platform.entity? = held) :
    Runs (g.active r) r.key w (g.update r held) := by
  obtain ⟨id, hid⟩ := Option.ne_none_iff_exists'.1 hid
  rw [hid, Option.bind_some] at hheld
  unfold Runs Engine.active Resource.updateEntity Engine.update
  simp only [hid, Option.getD_some, ends_bind, ends_during, ends_attempt]
  have h₀ := Follows.start hw hr
  cases held with
  | none =>
    refine (h₀.getEntity_of_none hheld).imp (fun _ _ h => h.elim) ?_
    rintro f w₁ ⟨rfl, h₁⟩
    simp only [Failure.ofRemote, Failure.ofCause, ends_bind, ends_publish, ends_discard,
      Resource.untrack, ends_measure, ends_throw]
    have h₂ := h₁.told .warning .remoteNotFound
      s!"Remote entity {id} not found, it will be recreated"
    refine Ends.imp (h₂.writeStatus rfl rfl none) ?_ fun _ _ h => h.elim
    rintro - w₃ ⟨v, -, h₃⟩
    exact ⟨trivial, v, h₃.noted (.stands r.key none)⟩
  | some e =>
    refine (h₀.getEntity hheld).imp ?_ fun _ _ h => h.elim
    rintro e w₁ ⟨rfl, h₁⟩
    cases hb : r.desiredBody with
    | error err =>
      simp only [ends_pure, Resource.body, hb, ends_throw]
      exact ⟨trivial, _, h₁⟩
    | ok b =>
      simp only [ends_pure, Resource.body, hb]
      by_cases hsync : k.inSync b e.body = true
      · rw [if_pos hsync, if_pos hsync]
        simp only [ends_bind, ends_pure]
        refine (h₁.observe rfl rfl).imp ?_ fun _ _ h => h.elim
        rintro - w₂ ⟨v, h₂⟩
        unfold Engine.nextPass
        cases g.successRequeue <;> exact ⟨rfl, v, h₂⟩
      · rw [if_neg hsync, if_neg hsync]
        simp only [ends_bind, ends_during, Resource.countOperation, ends_measure, ends_publish,
          ends_pure]
        have hheld₁ := (congrFun (h₁.entity?_eq rfl) id).trans hheld
        refine (h₁.updateEntity rfl hheld₁).imp ?_ fun _ _ h => h.elim
        rintro e' w₂ ⟨rfl, h₂⟩
        have h₃ := (h₂.noted (.operation .update)).told .normal .updated
          s!"Updated remote entity {id}"
        refine Ends.imp (h₃.observe rfl rfl) ?_ fun _ _ h => h.elim
        rintro - w₄ ⟨v, h₄⟩
        unfold Engine.nextPass
        cases g.successRequeue <;> exact ⟨rfl, v, h₄⟩

theorem transition_runs (hw : w.Calm) (hr : w.store.get? r.key = some r) :
    Runs (g.transition r) r.key w
      (g.transitionCourse r (r.remoteId.bind w.platform.entity?) w.platform.nextId) := by
  unfold Engine.transition Engine.transitionCourse
  cases due : g.lifecycle r with
  | pendingCreation => exact creation_runs hw hr
  | pendingDeletion => exact deletion_runs hw hr
  | outOfScope => exact withdrawal_runs hw hr
  | active => exact update_runs hw hr (Engine.lifecycle_eq_active_iff.1 due).1 rfl

/-- The identifier that the object under a key records. -/
def recordedAt (w : World k) (key : ObjectKey) : Option String :=
  (w.store.get? key).bind Resource.remoteId

/-- The entity that the object under a key records, where the platform holds it. -/
def heldFor (w : World k) (key : ObjectKey) : Option (Entity k.Body) :=
  (w.recordedAt key).bind w.platform.entity?

/-- While nothing fails, a pass ends as was worked out from the object, its entity and the next
identifier, and leaves what was worked out. -/
theorem reconcile_runs (hw : w.Calm) (hkey : ∀ r, w.store.get? key = some r → r.key = key)
    (elapsed : Duration) : Runs (g.reconcile key elapsed) key w
      (g.course (w.store.get? key) (w.heldFor key) w.platform.nextId elapsed) := by
  unfold Runs Engine.reconcile Engine.course heldFor recordedAt
  simp only [ends_bind, ends_during]
  refine (calm_load hw).imp ?_ fun _ _ h => h.elim
  rintro o w₁ ⟨hcalm, hstep, hs, rfl⟩
  cases hr : w.store.get? key with
  | none =>
    simp only [ends_bind, ends_pure]
    have h₀ := (Follows.start_none hcalm (hs ▸ hr)).of_loaded hstep hs
    exact ⟨trivial, none, h₀.noted (.ended .skipped elapsed)⟩
  | some r =>
    obtain rfl := hkey r hr
    simp only [ends_bind, ends_attempt, ends_publish, ends_throw, Option.bind_some]
    have htransition := transition_runs (g := g) hcalm (hs ▸ hr)
    rw [hstep.platform] at htransition
    generalize g.transitionCourse r (r.remoteId.bind w.platform.entity?) w.platform.nextId =
      outcome at htransition ⊢
    obtain ⟨result, c⟩ := outcome
    refine htransition.imp ?_ ?_
    · rintro next w₂ ⟨rfl, v, h₂⟩
      exact ⟨rfl, v, (h₂.of_loaded hstep hs).noted (.ended .success elapsed)⟩
    · rintro f w₂ ⟨rfl, v, h₂⟩
      have h₃ := (h₂.of_loaded hstep hs).told .warning f.reason f.text
      exact ⟨rfl, v, h₃.noted (.ended .error elapsed)⟩

theorem reconcile_runs_of_get? (hw : w.Calm) (hr : w.store.get? key = some r) (hkey : r.key = key)
    (elapsed : Duration) : Runs (g.reconcile key elapsed) key w (Engine.closed elapsed
      (g.transitionCourse r (r.remoteId.bind w.platform.entity?) w.platform.nextId)) := by
  have hplaced (r' : Resource k) (hr' : w.store.get? key = some r') : r'.key = key :=
    Option.some.inj (hr.symm.trans hr') ▸ hkey
  have hruns := reconcile_runs (g := g) hw hplaced elapsed
  simpa only [heldFor, recordedAt, hr, Engine.course, Option.bind_some] using hruns

end procedures
end World

end ResourceSync
