import ResourceSync.Proofs.Effect

/-! What the calls of a pass do while none of them fails. -/
namespace ResourceSync

variable {k : Kind}

theorem Store.writeStatus_calm {s : Store k} {r stored : Resource k} {status : Option k.Status}
    (hs : s.outage = 0) (hstored : s.get? r.key = some stored)
    (hv : stored.metadata.resourceVersion = r.metadata.resourceVersion) :
    s.writeStatus r status = (.ok (s.stamped { stored with status := status }),
      { s.put r.key { stored with status := status } with
        statusWrites := s.statusWrites + 1 }) := by
  unfold writeStatus
  rw [if_neg (by simp [hs]), hstored]
  exact if_neg (not_not.2 hv)

theorem Store.patchFinalizers_calm {s : Store k} {key : ObjectKey} {stored : Resource k}
    (hstored : s.get? key = some stored) (finalizers : List String) :
    ∃ s', s.patchFinalizers key finalizers = (.ok (), s') ∧ s'.outage = s.outage ∧
      s'.get? = Function.update s.get? key (s.refinalized stored finalizers) := by
  rcases s.patchFinalizers_cases key finalizers with
    ⟨e, s', hs, -⟩ | ⟨stored', s', hs, hstored', ho⟩
  · unfold patchFinalizers at hs
    simp only [get?] at hs hstored
    rw [hstored] at hs
    dsimp only at hs
    split at hs <;> cases hs
  · obtain rfl := Option.some.inj (hstored.symm.trans hstored')
    refine ⟨s', hs, ?_, ho⟩
    unfold patchFinalizers at hs
    simp only [get?] at hs hstored
    rw [hstored] at hs
    dsimp only at hs
    split at hs <;> cases hs <;> rfl

namespace Platform
variable {p : Platform k} {id : String} {b : k.Body} {e : Entity k.Body}

/-- The platform after an entity was looked up. -/
def looked (p : Platform k) : Platform k :=
  { p with calls := { p.calls with get := p.calls.get + 1 } }

/-- The identifier after the next. -/
def laterId (p : Platform k) : String := p.takeId.2.nextId

theorem create_calm (hp : p.outage = 0) : ∃ p', p.create b = (.ok p.nextId, p') ∧ p'.outage = 0 ∧
    p'.nextId = p.laterId ∧
    p'.entity? = Function.update p.entity? p.nextId (some (newborn p.nextId b)) := by
  unfold create attempt laterId nextId takeId
  simp only [hp]
  cases p.nextIds with
  | nil => exact ⟨_, rfl, rfl, rfl, SortedMap.get?_insert_eq _ _ _⟩
  | cons id ids => exact ⟨_, rfl, rfl, rfl, SortedMap.get?_insert_eq _ _ _⟩

theorem get_calm (hp : p.outage = 0) (he : p.entity? id = some e) :
    p.get id = (.ok e, p.looked) := by
  unfold get attempt
  rw [if_pos hp]
  simp only [entity?] at he ⊢
  rw [he]
  rfl

theorem get_calm_of_none (hp : p.outage = 0) (he : p.entity? id = none) :
    p.get id = (.error (.notFound (entityPath id)), p.looked) := by
  unfold get attempt
  rw [if_pos hp]
  simp only [entity?] at he ⊢
  rw [he]
  rfl

theorem update_calm (hp : p.outage = 0) (he : p.entity? id = some e) :
    ∃ p', p.update id b = (.ok (renewed e b), p') ∧ p'.outage = 0 ∧ p'.nextId = p.nextId ∧
      p'.entity? = Function.update p.entity? id (some (renewed e b)) := by
  unfold update attempt
  rw [if_pos hp]
  simp only [entity?] at he ⊢
  rw [he]
  exact ⟨_, rfl, hp, rfl, SortedMap.get?_insert_eq _ _ _⟩

theorem delete_calm (hp : p.outage = 0) (he : p.entity? id = some e) :
    ∃ p', p.delete id = (.ok (), p') ∧ p'.outage = 0 ∧ p'.nextId = p.nextId ∧
      p'.entity? = Function.update p.entity? id none := by
  unfold delete attempt
  rw [if_pos hp]
  simp only [entity?] at he ⊢
  rw [he]
  exact ⟨_, rfl, hp, rfl, SortedMap.get?_erase_eq _ _⟩

theorem delete_calm_of_none (hp : p.outage = 0) (he : p.entity? id = none) :
    ∃ p', p.delete id = (.error (.notFound (entityPath id)), p') ∧ p'.outage = 0 ∧
      p'.nextId = p.nextId ∧ p'.entity? = p.entity? := by
  unfold delete attempt
  rw [if_pos hp]
  simp only [entity?] at he ⊢
  rw [he]
  exact ⟨_, rfl, hp, rfl, rfl⟩

end Platform

namespace World
variable {α : Type} {w w' : World k} {r stored : Resource k} {key : ObjectKey} {id : String}
  {b : k.Body} {e : Entity k.Body} {g : Engine k} {elapsed : Duration}
  {Q : α → World k → Prop} {E : Failure → World k → Prop}
  {site : Site}

/-- Every call is going to go through. -/
structure Calm (w : World k) : Prop where
  plan : ∀ site, ∀ t ∈ w.plan site, t = .pass
  store : w.store.outage = 0
  platform : w.platform.outage = 0

theorem Calm.undisturbed (hw : w.Calm) : w.Undisturbed := fun site t ht => by
  rw [hw.plan site t ht]
  trivial

/-- Metrics and events have no part in it. -/
theorem Calm.carried (hw : w.Calm) (m : Metrics) (es : List Event) :
    Calm { w with metrics := m, events := es } := ⟨hw.plan, hw.store, hw.platform⟩

theorem calm_nextTurn (hw : w.Calm) (site : Site) : (w.plan site).headD .pass = .pass ∧
    Calm { w with plan := planAfter w.plan site } := by
  refine ⟨?_, ?_, hw.store, hw.platform⟩
  · cases hp : w.plan site with
    | nil => rfl
    | cons t ts => exact hw.plan site t (by simp [hp])
  · intro s t ht
    simp only [planAfter] at ht
    split at ht
    · exact hw.plan s t (List.mem_of_mem_tail ht)
    · exact hw.plan s t ht

theorem calm_around {call : Run k α} (hw : w.Calm)
    (through : ∀ p, Calm { w with plan := p } → Ends call { w with plan := p } Q E) :
    Ends (around site call) w Q E := by
  obtain ⟨hpass, hcalm⟩ := calm_nextTurn hw site
  simp only [around, ends_bind, ends_nextTurn, hpass]
  exact through _ hcalm

theorem calm_load (hw : w.Calm) : Ends (load key) w
    (fun o w' => w'.Calm ∧ StoreStep w w' ∧ w'.store = w.store ∧ o = w.store.get? key)
    (fun _ _ => False) :=
  calm_around hw fun _ hp => ⟨hp, ⟨hp.undisturbed, rfl, rfl, rfl⟩, rfl, rfl⟩

theorem calm_writeStatus {status : Option k.Status} (hw : w.Calm)
    (hstored : w.store.get? r.key = some stored)
    (hv : stored.metadata.resourceVersion = r.metadata.resourceVersion) :
    Ends (writeStatus r status) w
      (fun r' w' => w'.Calm ∧ StoreStep w w' ∧
        r' = w.store.stamped { stored with status := status } ∧
        w'.store.get? = Function.update w.store.get? r.key (some r'))
      (fun _ _ => False) := by
  refine calm_around hw ?_
  intro p hp
  rw [ends_onStore]
  simp only [Store.writeStatus_calm hw.store hstored hv]
  exact ⟨⟨hp.plan, hp.store, hp.platform⟩, ⟨hp.undisturbed, rfl, rfl, rfl⟩, trivial,
    Store.get?_put⟩

theorem calm_patchFinalizers {finalizers : List String} (hw : w.Calm)
    (hstored : w.store.get? r.key = some stored) :
    Ends (patchFinalizers r finalizers) w
      (fun _ w' => w'.Calm ∧ StoreStep w w' ∧
        w'.store.get? = Function.update w.store.get? r.key (w.store.refinalized stored finalizers))
      (fun _ _ => False) := by
  refine calm_around hw ?_
  intro p hp
  rw [ends_onStore]
  obtain ⟨s, hs, houtage, ho⟩ := Store.patchFinalizers_calm hstored finalizers
  simp only [hs]
  exact ⟨⟨hp.plan, houtage.trans hp.store, hp.platform⟩, ⟨hp.undisturbed, rfl, rfl, rfl⟩, ho⟩

theorem calm_createEntity (hw : w.Calm) : Ends (createEntity b) w
    (fun id w' => w'.Calm ∧ PlatformStep w w' ∧ id = w.platform.nextId ∧
      w'.platform.nextId = w.platform.laterId ∧
      w'.platform.entity? = Function.update w.platform.entity? id (some (Platform.newborn id b)))
    (fun _ _ => False) := by
  refine calm_around hw ?_
  intro p hp
  rw [ends_onPlatform]
  obtain ⟨pl, hs, houtage, hid, he⟩ := Platform.create_calm (b := b) hw.platform
  simp only [hs]
  exact ⟨⟨hp.plan, hp.store, houtage⟩, ⟨hp.undisturbed, rfl, rfl, rfl⟩, trivial, hid, he⟩

theorem calm_getEntity (hw : w.Calm) (he : w.platform.entity? id = some e) :
    Ends (getEntity id) w
      (fun e' w' => w'.Calm ∧ PlatformStep w w' ∧ e' = e ∧ w'.platform = w.platform.looked)
      (fun _ _ => False) := by
  obtain ⟨hpass, hp⟩ := calm_nextTurn hw .remoteGet
  simp only [getEntity, ends_bind, ends_nextTurn, hpass, ends_onPlatform,
    Platform.get_calm hw.platform he]
  exact ⟨⟨hp.plan, hp.store, hp.platform⟩, ⟨hp.undisturbed, rfl, rfl, rfl⟩, trivial, trivial⟩

theorem calm_getEntity_of_none (hw : w.Calm) (he : w.platform.entity? id = none) :
    Ends (getEntity id : Run k (Entity k.Body)) w (fun _ _ => False)
      (fun f w' => w'.Calm ∧ PlatformStep w w' ∧
        f = .ofRemote (.notFound (Platform.entityPath id)) ∧ w'.platform = w.platform.looked) := by
  obtain ⟨hpass, hp⟩ := calm_nextTurn hw .remoteGet
  simp only [getEntity, ends_bind, ends_nextTurn, hpass, ends_onPlatform,
    Platform.get_calm_of_none hw.platform he]
  exact ⟨⟨hp.plan, hp.store, hp.platform⟩, ⟨hp.undisturbed, rfl, rfl, rfl⟩, trivial, trivial⟩

theorem calm_updateEntity (hw : w.Calm) (he : w.platform.entity? id = some e) :
    Ends (updateEntity id b) w
      (fun e' w' => w'.Calm ∧ PlatformStep w w' ∧ e' = Platform.renewed e b ∧
        w'.platform.nextId = w.platform.nextId ∧
        w'.platform.entity? = Function.update w.platform.entity? id (some e'))
      (fun _ _ => False) := by
  refine calm_around hw ?_
  intro p hp
  rw [ends_onPlatform]
  obtain ⟨pl, hs, houtage, hid, he'⟩ := Platform.update_calm (b := b) hw.platform he
  simp only [hs]
  exact ⟨⟨hp.plan, hp.store, houtage⟩, ⟨hp.undisturbed, rfl, rfl, rfl⟩, trivial, hid, he'⟩

theorem calm_deleteEntity (hw : w.Calm) (he : w.platform.entity? id = some e) :
    Ends (deleteEntity id) w
      (fun _ w' => w'.Calm ∧ PlatformStep w w' ∧ w'.platform.nextId = w.platform.nextId ∧
        w'.platform.entity? = Function.update w.platform.entity? id none)
      (fun _ _ => False) := by
  refine calm_around hw ?_
  intro p hp
  rw [ends_onPlatform]
  obtain ⟨pl, hs, houtage, hid, he'⟩ := Platform.delete_calm hw.platform he
  simp only [hs]
  exact ⟨⟨hp.plan, hp.store, houtage⟩, ⟨hp.undisturbed, rfl, rfl, rfl⟩, hid, he'⟩

theorem calm_deleteEntity_of_none (hw : w.Calm) (he : w.platform.entity? id = none) :
    Ends (deleteEntity id) w (fun _ _ => False)
      (fun f w' => w'.Calm ∧ PlatformStep w w' ∧
        f = .ofRemote (.notFound (Platform.entityPath id)) ∧
        w'.platform.nextId = w.platform.nextId ∧ w'.platform.entity? = w.platform.entity?) := by
  refine calm_around hw ?_
  intro p hp
  rw [ends_onPlatform]
  obtain ⟨pl, hs, houtage, hid, he'⟩ := Platform.delete_calm_of_none hw.platform he
  simp only [hs]
  exact ⟨⟨hp.plan, hp.store, houtage⟩, ⟨hp.undisturbed, rfl, rfl, rfl⟩, trivial, hid, he'⟩

/-- Whether or not the platform still holds the recorded entity, it is gone afterwards. -/
theorem calm_delete (hw : w.Calm) : Ends r.deleteEntity w
    (fun _ w' => w'.Calm ∧ w'.store = w.store ∧ ∀ id, w'.platform.entity? id =
      if r.remoteId = some id then none else w.platform.entity? id)
    (fun _ _ => False) := by
  unfold Resource.deleteEntity
  cases hid : r.remoteId with
  | none => exact ⟨hw, rfl, by simp⟩
  | some id =>
    simp only [ends_bind, ends_attempt, Resource.countOperation, Resource.untrack, ends_measure]
    cases he : w.platform.entity? id with
    | some e =>
      refine (calm_deleteEntity hw he).imp ?_ fun _ _ h => h.elim
      rintro - w₁ ⟨hcalm, hstep, -, he₁⟩
      refine ⟨hcalm.carried _ _, hstep.store, ?_⟩
      intro id'
      simp only [he₁, Function.update_apply, Option.some.injEq, eq_comm]
    | none =>
      refine (calm_deleteEntity_of_none hw he).imp (fun _ _ h => h.elim) ?_
      rintro f w₁ ⟨hcalm, hstep, rfl, -, he₁⟩
      simp only [Failure.ofRemote, Failure.ofCause]
      refine ⟨hcalm.carried _ _, hstep.store, ?_⟩
      intro id'
      rw [he₁]
      split
      · next heq => rw [← Option.some.inj heq, he]
      · rfl

/-- A pass loads the object and does what is due for it. -/
theorem calm_reconcile {Q : World k → Prop} (hw : w.Calm) (hr : w.store.get? key = some r)
    (hQ : ∀ w' m, Q w' → Q { w' with metrics := m })
    (h : ∀ w₁, w₁.Calm → StoreStep w w₁ → w₁.store = w.store →
      Ends (g.transition r) w₁ (fun _ => Q) fun _ _ => False) :
    Ends (g.reconcile key elapsed) w (fun _ => Q) fun _ _ => False := by
  unfold Engine.reconcile
  simp only [ends_bind, ends_during]
  refine (calm_load hw).imp ?_ fun _ _ h => h
  rintro o w₁ ⟨hcalm, hstep, hs, rfl⟩
  simp only [hr, ends_bind, ends_attempt]
  refine (h w₁ hcalm hstep hs).imp ?_ fun _ _ h => h.elim
  intro _ w' hw'
  exact hQ w' _ hw'

/-- The same for a pass that cannot do it. -/
theorem calm_reconcile_fails {Q : World k → Prop} (hw : w.Calm) (hr : w.store.get? key = some r)
    (hQ : ∀ w' m es, Q w' → Q { w' with metrics := m, events := es })
    (h : ∀ w₁, w₁.Calm → StoreStep w w₁ → w₁.store = w.store →
      Ends (g.transition r) w₁ (fun _ _ => False) fun _ => Q) :
    Ends (g.reconcile key elapsed) w (fun _ _ => False) fun _ => Q := by
  unfold Engine.reconcile
  simp only [ends_bind, ends_during]
  refine (calm_load hw).imp ?_ fun _ _ h => h.elim
  rintro o w₁ ⟨hcalm, hstep, hs, rfl⟩
  simp only [hr, ends_bind, ends_attempt]
  refine (h w₁ hcalm hstep hs).imp (fun _ _ h => h.elim) ?_
  intro f w' hw'
  exact hQ w' _ _ hw'

theorem calm_removeFinalizer {finalizer : String} (hw : w.Calm)
    (hr : w.store.get? r.key = some r) :
    Ends (removeFinalizer r finalizer) w
      (fun _ w' => w'.Calm ∧ w'.platform = w.platform ∧
        w'.store.get? = Function.update w.store.get? r.key (w.store.released r finalizer))
      (fun _ _ => False) := by
  unfold removeFinalizer Store.released
  split
  · refine (calm_patchFinalizers hw hr).imp ?_ fun _ _ h => h
    rintro - w' ⟨hcalm, hstep, ho⟩
    exact ⟨hcalm, hstep.platform, ho⟩
  · exact ⟨hw, rfl, (Function.update_eq_self_iff.2 hr.symm).symm⟩

theorem ok_of_ends {Q : World k → Prop}
    (h : Ends (g.reconcile key elapsed) w (fun _ => Q) fun _ _ => False) :
    ∃ next w', g.reconcile key elapsed w = .ok next w' ∧ Q w' := by
  cases hx : g.reconcile key elapsed w with
  | ok next w' => exact ⟨next, w', rfl, h.of_ok hx⟩
  | error f w' => exact (h.of_error hx).elim

end World

end ResourceSync
