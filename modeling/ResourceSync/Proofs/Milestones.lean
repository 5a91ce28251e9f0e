import ResourceSync.Proofs.Release
import ResourceSync.Proofs.Telling

/-! A pass publishes milestones, and each of them makes a statement about the pass. The statement is
true with one exception: `deleted` is also published when an object is released that never recorded
an entity. -/
namespace ResourceSync

variable {k : Kind}

open World

namespace Kind

/-- The identifier that a status holds. It may be the empty text. -/
def heldId : (k : Kind) → k.Status → Option String
  | alert => fun s : AlertStatus => s.id
  | outboundWebhook => fun s : OutboundWebhookStatus => s.id
  | ruleGroup | recordingRuleGroupSet | apiKey | team => fun s : IdStatus => s.id

theorem heldId_statusWithId (id : String) : k.heldId (k.statusWithId id) = some id := by
  cases k <;> rfl

theorem heldId_observedStatus (e : Entity k.Body) : k.heldId (k.observedStatus e) = some e.id := by
  cases k <;> rfl

end Kind

/-- The call goes through, or it fails for some reason and has no effect. -/
def Turn.IsCandid : Turn k → Prop
  | .pass | .fail _ => True
  | .meddle _ | .distort _ => False

namespace World
variable {w w' : World k} {r : Resource k} {key : ObjectKey} {id : String} {b : k.Body}

/-- Calls may fail in any way. Nobody interferes, and every entity is reported as it is. -/
def Candid (w : World k) : Prop := ∀ site, ∀ t ∈ w.plan site, t.IsCandid

theorem Candid.alone (hw : w.Candid) : w.Alone := by
  intro site t ht
  have hcandid := hw site t ht
  cases t with
  | pass | fail => trivial
  | meddle | distort => exact hcandid.elim

theorem Candid.continues (hw : w.Candid) (h : Continues w w') : w'.Candid :=
  fun site t ht => hw site t ((h site).mem ht)

theorem Candid.isCandid_headD (hw : w.Candid) (site : Site) :
    ((w.plan site).headD .pass).IsCandid := by
  rcases headD_plan w site with hpass | hmem
  · rw [hpass]
    trivial
  · exact hw site _ hmem

theorem ends_trivially {α : Type} (x : Run k α) (w : World k) :
    Ends x w (fun _ _ => True) (fun _ _ => True) := by
  unfold Ends
  split <;> trivial

/-- The object under a key is there, and its status holds an identifier. -/
def Links (w : World k) (key : ObjectKey) (id : String) : Prop :=
  ∃ r, w.store.get? key = some r ∧ r.key = key ∧ r.status.bind k.heldId = some id

/-- An entity was created since `w`, and the object under the key holds its identifier. -/
structure Creates (key : ObjectKey) (w w' : World k) : Prop where
  changes : w'.platform.changes.create = w.platform.changes.create + 1
  entity : ∃ b, w'.platform.entity? w.platform.nextId =
    some (Platform.newborn w.platform.nextId b)
  recorded : w'.Links key w.platform.nextId

/-- The next deletion in `w` is of an entity with the identifier. It goes through or finds that there
is none, and it is the last request to the platform before `w'`. -/
def Deletes (id : String) (w w' : World k) : Prop :=
  ∃ v, (deleteEntity id w = .ok () v ∨ ∃ f, deleteEntity id w = .error f v ∧
      f.cause.isNotFound = true) ∧
    w'.platform = v.platform ∧ w'.plan .remoteDelete = v.plan .remoteDelete

/-- Metrics and events do not matter for it. -/
theorem Creates.carried {w₁ : World k} (h : Creates key w w₁) (hs : w'.store = w₁.store)
    (hp : w'.platform = w₁.platform) : Creates key w w' := by
  obtain ⟨hchanges, hentity, hlinks⟩ := h
  rw [Links, ← hs] at hlinks
  rw [← hp] at hchanges hentity
  exact ⟨hchanges, hentity, hlinks⟩

theorem Deletes.carried {w₁ : World k} (h : Deletes id w w₁) (hp : w'.platform = w₁.platform)
    (hplan : w'.plan .remoteDelete = w₁.plan .remoteDelete) : Deletes id w w' := by
  obtain ⟨v, hdelete, hp₁, hplan₁⟩ := h
  exact ⟨v, hdelete, hp.trans hp₁, hplan.trans hplan₁⟩

section calls
variable (hw : w.Candid)
include hw

theorem Candid.createEntity : Ends (World.createEntity b) w
    (fun id w' => w'.Candid ∧ w'.store = w.store ∧ id = w.platform.nextId ∧
      w'.platform.changes.create = w.platform.changes.create + 1 ∧
      w'.platform.entity? id = some (Platform.newborn id b))
    (fun _ _ => True) := by
  refine hw.alone.around (fun p hrest => ?_) fun _ _ _ _ => trivial
  rw [ends_onPlatform]
  rcases w.platform.create_alters b with ⟨e, p', hs, -⟩ | ⟨p', hs, he, hchanges⟩
  · simp only [hs]
  · simp only [hs]
    refine ⟨hw.continues hrest, trivial, trivial, by rw [hchanges], ?_⟩
    rw [Platform.entity?, he, SortedMap.get?_insert, if_pos rfl]

theorem Candid.getEntity : Ends (World.getEntity id) w
    (fun e w' => w'.Candid ∧ w'.store = w.store ∧ w.platform.entity? id = some e ∧
      w.platform.Unaltered w'.platform)
    (fun _ _ => True) := by
  have hrest := continues_planAfter w .remoteGet
  have hcandid := hw.isCandid_headD .remoteGet
  have through : Ends (onPlatform fun p => p.get id) { w with plan := planAfter w.plan .remoteGet }
      (fun e w' => w'.Candid ∧ w'.store = w.store ∧ w.platform.entity? id = some e ∧
        w.platform.Unaltered w'.platform) (fun _ _ => True) := by
    have hunaltered := w.platform.unaltered_get id
    rw [ends_onPlatform]
    rcases w.platform.get_cases id with ⟨e, p, hs, -, -⟩ | ⟨e, p, hs, he, -⟩
    · simp only [hs]
    · simp only [hs] at hunaltered ⊢
      exact ⟨hw.continues hrest, trivial, he, hunaltered⟩
  simp only [World.getEntity, ends_bind, ends_nextTurn]
  cases hc : (w.plan .remoteGet).headD .pass with
  | pass => exact through
  | fail cause => trivial
  | meddle | distort =>
    rw [hc] at hcandid
    exact hcandid.elim

/-- A status that holds an identifier is written to the object. -/
theorem Candid.writeStatus {status : k.Status}
    (hkey : ∀ stored, w.store.get? r.key = some stored → stored.key = r.key)
    (hstatus : k.heldId status = some id) : Ends (World.writeStatus r (some status)) w
    (fun r' w' => w'.Candid ∧ w'.platform = w.platform ∧ r'.key = r.key ∧ w'.Links r.key id)
    (fun _ _ => True) := by
  refine hw.alone.writeStatus.imp ?_ fun _ _ _ => trivial
  rintro r' w' ⟨hcall, stored, hstored, -, rfl, ho⟩
  have hkey' : (w.store.stamped { stored with status := some status }).key = r.key :=
    (Resource.IsVersionOf.stamped _ _ _).key.trans (hkey stored hstored)
  exact ⟨hw.continues hcall.continues, hcall.platform, hkey', _,
    by rw [ho, Function.update_self], hkey', hstatus⟩

theorem creates_create (hs : w.store.Placed) : Ends r.createEntity w
    (fun _ w' => w'.Candid ∧ Creates r.key w w') (fun _ _ => True) := by
  unfold Resource.createEntity Resource.body
  simp only [ends_bind, ends_during, ends_attempt, ends_discard, ends_pure, ends_throw]
  cases r.desiredBody with
  | error e => trivial
  | ok b =>
    refine hw.createEntity.imp ?_ fun _ _ h => h
    rintro id w₁ ⟨hw₁, hs₁, rfl, hchanges, he⟩
    rw [ends_countOperation]
    have hw₁ : Candid { w₁ with
        metrics := w₁.metrics.recordOperation k.name Operation.create.name } := hw₁
    refine (hw₁.writeStatus (fun stored hstored => ?_)
      (k.heldId_statusWithId w.platform.nextId)).imp ?_ ?_
    · exact hs r.key stored (hs₁ ▸ hstored)
    · rintro stored w₂ ⟨hw₂, hp₂, hkey, hlinks⟩
      refine hw₂.getEntity.imp ?_ fun _ _ h => h
      rintro e w₃ ⟨hw₃, hs₃, he₃, hunaltered⟩
      rw [hp₂] at he₃
      obtain rfl : Platform.newborn w.platform.nextId b = e := Option.some.inj (he.symm.trans he₃)
      have hcreates {w' : World k} (hp : w'.platform = w₃.platform)
          (hlinks : w'.Links r.key w.platform.nextId) : Creates r.key w w' := by
        refine ⟨?_, ⟨b, ?_⟩, hlinks⟩
        · rw [hp, hunaltered.changes, hp₂]
          exact hchanges
        · rw [hp, Platform.entity?, hunaltered.entities, hp₂]
          exact he
      have hlinks : w₃.Links r.key w.platform.nextId := by
        rw [Links, hs₃]
        exact hlinks
      split
      · simp only [ends_bind, ends_discard]
        refine (hw₃.writeStatus (fun stored' hstored' => ?_)
          (k.heldId_observedStatus (Platform.newborn w.platform.nextId b))).imp ?_ ?_
        · obtain ⟨r₃, hr₃, hkey₃, -⟩ := hlinks
          rw [hkey, hr₃] at hstored'
          rw [← Option.some.inj hstored', hkey₃, hkey]
        · rintro - w₄ ⟨hw₄, hp₄, -, hlinks₄⟩
          exact ⟨hw₄, hcreates hp₄ (hkey ▸ hlinks₄)⟩
        · exact fun _ _ h => h
      · exact ⟨hw₃, hcreates rfl hlinks⟩
    · intro f w₂ _
      exact ends_trivially _ _

theorem creates_pendingCreation (hs : w.store.Placed) : Ends (Engine.pendingCreation r) w
    (fun _ w' => Creates r.key w w' ∧ w'.Guards r.key) (fun _ _ => True) := by
  unfold Engine.pendingCreation
  simp only [ends_bind, ends_during]
  refine (creates_create hw hs).imp ?_ fun _ _ h => h
  rintro - w₁ ⟨hw₁, hcreates⟩
  refine hw₁.alone.load.imp ?_ fun _ _ _ => trivial
  rintro o w₂ ⟨hcall, hs₂, rfl⟩
  obtain ⟨r₁, hr₁, hkey, hid⟩ := hcreates.recorded
  simp only [hr₁, ends_bind, ends_during, ends_publish, ends_pure]
  have hplace : w₂.store.get? r₁.key = some r₁ := by rw [hs₂, hkey, hr₁]
  refine (ensureFinalizer_ends (hw₁.continues hcall.continues).alone hplace).imp ?_
    fun _ _ _ => trivial
  rintro - w₃ ⟨hp₃, r₂, hversion, hstatus, hfinalizers, ho⟩
  have hr₂ : w₃.store.get? r.key = some r₂ := by rw [ho, hkey, Function.update_self]
  have hp : w₃.platform = w₁.platform := hp₃.trans hcall.platform
  refine ⟨⟨hp ▸ hcreates.changes, hp ▸ hcreates.entity, r₂, hr₂, ?_, ?_⟩, r₂, hr₂, ?_⟩
  · rw [hversion.key, hkey]
  · rw [hstatus, hid]
  · exact Resource.hasFinalizer_of_ensured hfinalizers

omit hw

theorem Alone.deleteEntity (hw : w.Alone) : Ends (World.deleteEntity id) w
    (fun _ w' => w'.Alone ∧ w'.store = w.store) (fun _ w' => w'.Alone ∧ w'.store = w.store) := by
  refine hw.around (fun p hrest => ?_) fun p cause hrest _ => ⟨hw.continues hrest, rfl⟩
  rw [ends_onPlatform]
  split <;> exact ⟨hw.continues hrest, rfl⟩

theorem deletes_delete (hw : w.Alone) : Ends r.deleteEntity w
    (fun _ w' => (∀ id, r.remoteId = some id → Deletes id w w') ∧ w'.Alone ∧ w'.store = w.store)
    (fun _ _ => True) := by
  unfold Resource.deleteEntity
  cases r.remoteId with
  | none => exact ⟨by simp, hw, rfl⟩
  | some id =>
    simp only [ends_bind, ends_attempt, Option.some.injEq, forall_eq']
    refine hw.deleteEntity.tracked.imp ?_ ?_
    · rintro ⟨⟩ w₁ ⟨hdelete, h₁⟩
      exact ⟨⟨w₁, Or.inl hdelete, rfl, rfl⟩, h₁⟩
    · rintro f w₁ ⟨hdelete, h₁⟩
      split
      · next hcause =>
        exact ⟨⟨w₁, Or.inr ⟨f, hdelete, by rw [hcause]; rfl⟩, rfl, rfl⟩, h₁⟩
      · trivial

/-- After the finalizer was removed from the object that was read, the object does not have it. -/
theorem removeFinalizer_unguards (hw : w.Alone) (hr : w.store.get? r.key = some r) :
    Ends (removeFinalizer r k.finalizer) w
      (fun _ w' => ¬ w'.Guards r.key ∧ w'.platform = w.platform ∧
        w'.plan .remoteDelete = w.plan .remoteDelete)
      (fun _ _ => True) := by
  unfold removeFinalizer
  split
  · refine hw.patchFinalizers.imp ?_ fun _ _ _ => trivial
    rintro - w₁ ⟨hcall, stored, hstored, ho⟩
    refine ⟨?_, hcall.platform, by rw [hcall.plan]; rfl⟩
    rintro ⟨r', hr', hfinalizer⟩
    rw [ho, Function.update_self] at hr'
    have hlist := (Store.refinalized_eq_some hr').2.2
    simp [Resource.hasFinalizer, Metadata.finalizerList, hlist] at hfinalizer
  · next hmissing =>
    refine ⟨?_, rfl, rfl⟩
    rintro ⟨r', hr', hfinalizer⟩
    obtain rfl : r = r' := Option.some.inj (hr.symm.trans hr')
    exact hmissing hfinalizer

end calls

end World

namespace Engine
variable {g : Engine k} {w w₀ w₁ w' : World k} {key : ObjectKey} {r : Resource k}
  {told : List Event} {elapsed : Duration}

/-- The statement that a milestone makes about a pass from `w` to `w'` on the object under a key.
`created`: an entity was created, and the object holds its identifier and has the finalizer.
`updated`: one update went through. `deleted`: the recorded entity was deleted or was gone, and the
finalizer was removed. `outOfScope`: the object is out of scope, and its recorded entity was deleted
or was gone. -/
def Bears (g : Engine k) (key : ObjectKey) (w w' : World k) : Reason → Prop
  | .created => Creates key w w' ∧ w'.Guards key
  | .updated => w'.platform.changes.update = w.platform.changes.update + 1
  | .deleted => ∃ r w₀ id, load key w = .ok (some r) w₀ ∧ r.remoteId = some id ∧
      Deletes id w₀ w' ∧ ¬ w'.Guards key
  | .outOfScope => ∃ r w₀ id, load key w = .ok (some r) w₀ ∧ g.inScope r = false ∧
      r.remoteId = some id ∧ Deletes id w₀ w'
  | _ => True

/-- The pass succeeds on an object that is marked for deletion, is out of scope and records no
identifier. -/
def ReleasesUnrecorded (g : Engine k) (key : ObjectKey) (elapsed : Duration) (w : World k) : Prop :=
  ∃ r w₀ next w', load key w = .ok (some r) w₀ ∧ r.metadata.isDeleting = true ∧
    g.inScope r = false ∧ r.remoteId = none ∧ g.reconcile key elapsed w = .ok next w'

/-- The events that were published since `w` are true. There are as many `updated` events as
updates, and the `deleted` events are true exactly if there was no lapse. -/
structure Truthful (g : Engine k) (key : ObjectKey) (w w' : World k) (told : List Event)
    (lapse : Prop) : Prop where
  bears : ∀ e ∈ told, e.reason ≠ .deleted → g.Bears key w w' e.reason
  updates : w'.platform.changes.update =
    w.platform.changes.update + told.countP fun e => e.reason = .updated
  deleted : (∀ e ∈ told, e.reason = .deleted → g.Bears key w w' .deleted) ↔ ¬ lapse

/-- The work that was due for a resource has been done. -/
def Achieves (g : Engine k) (r : Resource k) (w w' : World k) : Prop :=
  match g.lifecycle r with
  | .pendingCreation => Creates r.key w w' ∧ w'.Guards r.key
  | .pendingDeletion => (∀ id, r.remoteId = some id → Deletes id w w') ∧ ¬ w'.Guards r.key
  | .outOfScope => ∀ id, r.remoteId = some id → Deletes id w w'
  | .active => True

theorem Achieves.carried {w₁ : World k} (h : g.Achieves r w w₁) (hs : w'.store = w₁.store)
    (hp : w'.platform = w₁.platform) (hplan : w'.plan = w₁.plan) : g.Achieves r w w' := by
  have hdeletes {id : String} (h : Deletes id w w₁) : Deletes id w w' := h.carried hp (by rw [hplan])
  have hguards {w₁ w₂ : World k} (h : w₁.Guards r.key) (hs : w₂.store = w₁.store) :
      w₂.Guards r.key := h.of_eq (congrArg Store.get? hs)
  revert h
  unfold Achieves
  cases g.lifecycle r with
  | pendingCreation => exact fun h => ⟨h.1.carried hs hp, hguards h.2 hs⟩
  | pendingDeletion =>
    exact fun h => ⟨fun id hid => hdeletes (h.1 id hid), fun hkept => h.2 (hguards hkept hs.symm)⟩
  | outOfScope => exact fun h id hid => hdeletes (h id hid)
  | active => exact fun h => h

theorem achieves_transition (hw : w.Candid) (hs : w.store.Placed)
    (hr : w.store.get? r.key = some r) :
    Ends (g.transition r) w (fun _ w' => g.Achieves r w w') (fun _ _ => True) := by
  unfold transition Achieves
  cases g.lifecycle r with
  | pendingCreation => exact creates_pendingCreation hw hs
  | pendingDeletion =>
    simp only [pendingDeletion, ends_bind, ends_during, ends_publish, ends_pure]
    refine (deletes_delete hw.alone).imp ?_ fun _ _ h => h
    rintro - w₁ ⟨hdeletes, hw₁, hs₁⟩
    refine (removeFinalizer_unguards hw₁ (hs₁ ▸ hr)).imp ?_ fun _ _ h => h
    rintro - w₂ ⟨hreleased, hp₂, hplan⟩
    exact ⟨fun id hid => (hdeletes id hid).carried hp₂ hplan, hreleased⟩
  | outOfScope =>
    simp only [outOfScope]
    split
    · simp only [ends_bind, ends_during, ends_publish, ends_pure]
      refine (deletes_delete hw.alone).imp ?_ fun _ _ h => h
      rintro - w₁ ⟨hdeletes, -⟩ id hid
      exact (hdeletes id hid).carried rfl rfl
    · next hnone =>
      intro id hid
      simp [hid] at hnone
  | active => exact ends_trivially _ _

/-- `deleted` is published exactly if a deletion was due. -/
theorem Announces.deleted_iff (h : g.Announces r w₀ true told) :
    (∃ e ∈ told, e.reason = .deleted) ↔ g.lifecycle r = .pendingDeletion := by
  cases h with
  | unchanged due => rcases due with due | due <;> simp [due]
  | created due | deleted due | tornDown due | updated due => simp [due]

section bears
variable (hachieves : g.Achieves r w₀ w') (hload : load r.key w = .ok (some r) w₀)
include hachieves hload

theorem Achieves.bears_deleted_iff (due : g.lifecycle r = .pendingDeletion) :
    g.Bears r.key w w' .deleted ↔ r.remoteId ≠ none := by
  simp only [Achieves, due] at hachieves
  constructor
  · rintro ⟨r₁, w₁, id, hload₁, hid, -⟩
    obtain ⟨rfl, rfl⟩ : r = r₁ ∧ w₀ = w₁ := by simpa [hload] using hload₁
    simp [hid]
  · intro hrecorded
    obtain ⟨id, hid⟩ := Option.ne_none_iff_exists'.1 hrecorded
    exact ⟨r, w₀, id, hload, hid, hachieves.1 id hid, hachieves.2⟩

theorem Announces.bears_deleted_iff (h : g.Announces r w₀ true told) :
    (∀ e ∈ told, e.reason = .deleted → g.Bears r.key w w' .deleted) ↔
      ¬ (g.lifecycle r = .pendingDeletion ∧ r.remoteId = none) := by
  by_cases due : g.lifecycle r = .pendingDeletion
  · obtain ⟨e, he, hreason⟩ := h.deleted_iff.2 due
    have hbears : g.Bears r.key w w' .deleted ↔ r.remoteId ≠ none :=
      hachieves.bears_deleted_iff hload due
    constructor
    · exact fun hall hnone => hbears.1 (hall e he hreason) hnone.2
    · exact fun hrecorded _ _ _ => hbears.2 fun hnone => hrecorded ⟨due, hnone⟩
  · constructor
    · exact fun _ hdue => due hdue.1
    · exact fun _ e he hreason => absurd (h.deleted_iff.1 ⟨e, he, hreason⟩) due

/-- All milestones of a successful pass other than `deleted` are true. -/
theorem Announces.bears (h : g.Announces r w₀ true told) (hp : w₀.platform = w.platform)
    (hupdates : w'.platform.changes.update =
      w.platform.changes.update + told.countP fun e => e.reason = .updated) :
    ∀ e ∈ told, e.reason ≠ .deleted → g.Bears r.key w w' e.reason := by
  unfold Achieves at hachieves
  intro e he hreason
  cases h with
  | unchanged => cases he
  | created due =>
    simp only [due] at hachieves
    obtain rfl := List.mem_singleton.1 he
    obtain ⟨⟨hchanges, hentity, hlinks⟩, hguards⟩ := hachieves
    rw [hp] at hchanges hentity hlinks
    exact ⟨⟨hchanges, hentity, hlinks⟩, hguards⟩
  | deleted =>
    obtain rfl := List.mem_singleton.1 he
    exact absurd rfl hreason
  | tornDown due recorded =>
    simp only [due] at hachieves
    obtain rfl := List.mem_singleton.1 he
    obtain ⟨id, hid⟩ := Option.ne_none_iff_exists'.1 recorded
    exact ⟨r, w₀, id, hload, (lifecycle_eq_outOfScope_iff.1 due).2, hid, hachieves id hid⟩
  | updated =>
    obtain rfl := List.mem_singleton.1 he
    exact hupdates

end bears

/-- The load before the transition and the note after it leave the count of updates alone. -/
theorem Tells.updates_carried {ok : Bool} (h : g.Tells r w₀ w₁ ok told)
    (hp : w₀.platform = w.platform) (hp₁ : w'.platform = w₁.platform) :
    w'.platform.changes.update =
      w.platform.changes.update + told.countP fun e => e.reason = .updated := by
  rw [hp₁, h.updates, hp]

theorem Tells.truthful (h : g.Tells r w₀ w₁ true told) (hachieves : g.Achieves r w₀ w')
    (hload : load r.key w = .ok (some r) w₀) (hp : w₀.platform = w.platform)
    (hp₁ : w'.platform = w₁.platform) :
    g.Truthful r.key w w' told (g.lifecycle r = .pendingDeletion ∧ r.remoteId = none) where
  bears := h.announces.bears hachieves hload hp (h.updates_carried hp hp₁)
  updates := h.updates_carried hp hp₁
  deleted := h.announces.bears_deleted_iff hachieves hload

theorem bears_of_isMilestone {reason : Reason} (h : reason.isMilestone = false) :
    g.Bears key w w' reason := by
  cases reason with
  | created | updated | deleted | outOfScope => cases h
  | _ => trivial

/-- A pass that fails publishes at most one `updated` event before its failure. -/
theorem Tells.truthful_of_failure (h : g.Tells r w₀ w₁ false told)
    (hp : w₀.platform = w.platform) (hp₁ : w'.platform = w₁.platform) (f : Failure) :
    g.Truthful key w w' (told ++ [⟨.warning, f.reason, f.text⟩]) False := by
  have hmilestone : f.reason.isMilestone = false := f.cause.isMilestone_reason
  have hother {reason : Reason} (hreason : reason.isMilestone = true) : f.reason ≠ reason := by
    rintro rfl
    cases hreason.symm.trans hmilestone
  have hupdates := h.updates_carried hp hp₁
  refine ⟨?_, ?_, ?_⟩
  · intro e he _
    rcases List.mem_append.1 he with he | he
    · cases h.announces with
      | failed => cases he
      | updated =>
        obtain rfl := List.mem_singleton.1 he
        exact hupdates
      | missed =>
        obtain rfl := List.mem_singleton.1 he
        trivial
    · obtain rfl := List.mem_singleton.1 he
      exact bears_of_isMilestone hmilestone
  · have hupdated : f.reason ≠ .updated := hother rfl
    rw [List.countP_append, hupdates]
    simp [hupdated]
  · simp only [not_false_eq_true, iff_true]
    intro e he hreason
    rcases List.mem_append.1 he with he | he
    · rcases h.announces.of_failure he with hreason' | hreason' <;>
        cases hreason.symm.trans hreason'
    · obtain rfl := List.mem_singleton.1 he
      exact absurd hreason (hother rfl)

/-- The events of a pass that loads its object. -/
theorem ends_truthfully (g : Engine k) (elapsed : Duration) (hw : w.Candid) (hs : w.store.Placed)
    (hload : load key w = .ok (some r) w₀) :
    Ends (g.reconcile key elapsed) w
      (fun _ w' => ∃ told, w'.events = w.events ++ told ∧
        g.Truthful key w w' told (g.lifecycle r = .pendingDeletion ∧ r.remoteId = none))
      (fun _ w' => ∃ told, w'.events = w.events ++ told ∧ g.Truthful key w w' told False) := by
  obtain ⟨hcall, hs₀, hr⟩ := hw.alone.load.of_ok hload
  obtain rfl : r.key = key := hs key r hr.symm
  have hachieves := achieves_transition (g := g) (hw.continues hcall.continues) (hs₀ ▸ hs)
    (by rw [hs₀, ← hr])
  rw [ends_reconcile_of_load hload]
  refine ((g.tells_transition r w₀).and hachieves).imp ?_ ?_
  · rintro next v ⟨⟨told, htold⟩, hachieves⟩
    exact ⟨told, hcall.events ▸ htold.events,
      htold.truthful (hachieves.carried rfl rfl rfl) hload hcall.platform rfl⟩
  · rintro f v ⟨⟨told, htold⟩, -⟩
    refine ⟨told ++ [⟨.warning, f.reason, f.text⟩], ?_, ?_⟩
    · simp only [htold.events, hcall.events, List.append_assoc]
    · refine htold.truthful_of_failure hcall.platform ?_ f
      rfl

/-- The milestones of a pass are true whichever of its calls fail. `created` is published only if an
entity was created and the object holds its identifier and has the finalizer. There are as many
`updated` events as updates went through. `outOfScope` is published only if the object is out of
scope and its entity was deleted or was gone. `deleted` is true unless the object that was released
never recorded an identifier. -/
theorem milestones_are_true_iff (g : Engine k) (key : ObjectKey) (elapsed : Duration)
    (hw : w.Candid) (hs : w.store.Placed) :
    let w' := after (g.reconcile key elapsed) w
    ∃ told, w'.events = w.events ++ told ∧
      g.Truthful key w w' told (g.ReleasesUnrecorded key elapsed w) := by
  intro w'
  by_cases hload : ∃ r w₀, load key w = .ok (some r) w₀
  · obtain ⟨r, w₀, hload⟩ := hload
    have hends := ends_truthfully g elapsed hw hs hload
    have hreleases : g.ReleasesUnrecorded key elapsed w ↔
        (g.lifecycle r = .pendingDeletion ∧ r.remoteId = none) ∧
          ∃ next v, g.reconcile key elapsed w = .ok next v := by
      rw [lifecycle_eq_pendingDeletion_iff]
      constructor
      · rintro ⟨r₁, w₁, next, v, hload₁, hdeleting, hscope, hnone, hx⟩
        obtain ⟨rfl, rfl⟩ : r = r₁ ∧ w₀ = w₁ := by simpa [hload] using hload₁
        exact ⟨⟨⟨hdeleting, fun _ => hscope⟩, hnone⟩, next, v, hx⟩
      · rintro ⟨⟨⟨hdeleting, hscope⟩, hnone⟩, next, v, hx⟩
        exact ⟨r, w₀, next, v, hload, hdeleting, hscope hnone, hnone, hx⟩
    rw [hreleases]
    cases hx : g.reconcile key elapsed w with
    | ok next v =>
      obtain rfl : w' = v := after_of_ok hx
      simpa using hends.of_ok hx
    | error f v =>
      obtain rfl : w' = v := after_of_error hx
      simpa using hends.of_error hx
  · simp only [not_exists] at hload
    have hquiet : w.Quiet w' := quiet_reconcile hload
    have hloads : ¬ g.ReleasesUnrecorded key elapsed w := by
      rintro ⟨r, w₀, -, -, hloaded, -⟩
      exact hload r w₀ hloaded
    exact ⟨[], by rw [hquiet.events, List.append_nil],
      ⟨by simp, by simpa using hquiet.updates, by simp [hloads]⟩⟩

end Engine

/-- A team that is marked for deletion. The platform answers that it does not have its entity. -/
def Sample.bereft : World .team :=
  Sample.undeleted.under (.once .remoteDelete (.fail (.remote (.notFound "/fake/e-1"))))

namespace Engine

/-- `deleted` is published here and is true: the entity is gone and the finalizer was removed. -/
theorem denied_entity_is_told_deleted :
    let w := Sample.bereft
    let w' := after (Sample.engine.reconcile Sample.key .zero) w
    w.Candid ∧ w.store.Placed ∧ ¬ Sample.engine.ReleasesUnrecorded Sample.key .zero w ∧
      w'.events = [⟨.normal, .deleted, "Deleted remote entity"⟩] ∧
      Sample.engine.Bears Sample.key w w' .deleted := by
  intro w w'
  have hw : w.Candid := by
    intro site t ht
    rw [Circumstances.mem_once ht]
    trivial
  have hs : w.store.Placed := Store.placed_empty.insert Sample.marked
  have hrecorded : ¬ Sample.engine.ReleasesUnrecorded Sample.key .zero w := by
    rintro ⟨r, w₀, next, v, hload, -, -, hnone, -⟩
    cases hload
    cases hnone
  obtain ⟨told, hevents, htold⟩ := milestones_are_true_iff Sample.engine Sample.key .zero hw hs
  have hdeleted : w'.events = [⟨.normal, .deleted, "Deleted remote entity"⟩] := rfl
  obtain rfl : [⟨.normal, .deleted, "Deleted remote entity"⟩] = told := hevents
  exact ⟨hw, hs, hrecorded, hdeleted, htold.deleted.2 hrecorded _ (List.mem_singleton.2 rfl) rfl⟩

/-- A team is marked for deletion, is out of scope and never had an entity. `deleted` is published
for it although no request was made. -/
theorem release_is_told_deleted :
    let g : Engine .team := ⟨⟨[.equals "team" "payments"]⟩, .zero, .zero⟩
    let w : World .team :=
      { World.empty ["e-1"] with store := Store.empty.insert { Sample.marked with status := none } }
    let w' := after (g.reconcile Sample.key .zero) w
    w.Candid ∧ w.store.Placed ∧ w'.events = [⟨.normal, .deleted, "Deleted remote entity"⟩] ∧
      w'.platform.calls.delete = 0 ∧ ¬ g.Bears Sample.key w w' .deleted := by
  intro g w w'
  refine ⟨(fun _ _ h => by cases h), Store.placed_empty.insert _, rfl, rfl, ?_⟩
  rintro ⟨r, w₀, id, hload, hid, -⟩
  cases hload
  cases hid

end Engine

end ResourceSync
