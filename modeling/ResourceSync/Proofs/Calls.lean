import Mathlib.Logic.Function.Basic
import Mathlib.Tactic.SplitIfs
import ResourceSync.Proofs.Ends

/-! What the calls of a pass do to the objects and the entities, when calls may fail but nobody
interferes. Both collections are seen as functions from keys. -/
namespace ResourceSync

variable {k : Kind}

theorem SortedMap.get?_insert_eq {κ α : Type} [KeyOrder κ] [DecidableEq κ] (m : SortedMap κ α)
    (key : κ) (a : α) : (m.insert key a).get? = Function.update m.get? key (some a) := by
  funext key'
  simp only [SortedMap.get?_insert, Function.update_apply]

theorem SortedMap.get?_erase_eq {κ α : Type} [KeyOrder κ] [DecidableEq κ] (m : SortedMap κ α)
    (key : κ) : (m.erase key).get? = Function.update m.get? key none := by
  funext key'
  by_cases h : key' = key
  · subst h
    simp
  · simp [SortedMap.get?_erase_of_ne h, h]

theorem SortedMap.get?_modify_eq {κ α : Type} [KeyOrder κ] [DecidableEq κ] (m : SortedMap κ α)
    (key : κ) (f : α → α) :
    (m.modify key f).get? = Function.update m.get? key ((m.get? key).map f) := by
  unfold modify
  cases h : m.get? key with
  | none =>
    dsimp only
    exact Function.eq_update_self_iff.2 h
  | some a =>
    dsimp only
    exact get?_insert_eq _ _ _

theorem SortedMap.mem_toList_of_get? {κ α : Type} [KeyOrder κ] {m : SortedMap κ α} {key : κ} {a : α}
    (h : m.get? key = some a) : (key, a) ∈ m.toList := by
  obtain ⟨l, hl⟩ := m
  simp only [get?, toList] at h ⊢
  clear hl
  induction l with
  | nil => cases h
  | cons e l ih =>
    simp only [find] at h
    split at h
    · exact List.mem_cons_of_mem _ (ih h)
    · next h₁ =>
      split at h
      · exact List.mem_cons_of_mem _ (ih h)
      · next h₂ =>
        obtain rfl := KeyOrder.lt_trichotomous h₁ h₂
        obtain rfl := Option.some.inj h
        exact List.mem_cons_self

namespace Store
variable {s : Store k} {key : ObjectKey} {r : Resource k}

theorem get?_put : (s.put key r).get? = Function.update s.get? key (some (s.stamped r)) :=
  SortedMap.get?_insert_eq _ _ _

theorem get?_erase : { s with objects := s.objects.erase key }.get? =
    Function.update s.get? key none :=
  SortedMap.get?_erase_eq _ _

/-- A status is written over the version it was worked out from, or nothing happens. -/
theorem writeStatus_cases (s : Store k) (r : Resource k) (status : Option k.Status) :
    (∃ e s', s.writeStatus r status = (.error e, s') ∧ s'.get? = s.get?) ∨
    ∃ stored s', s.writeStatus r status =
        (.ok (s.stamped { stored with status := status }), s') ∧
      s.get? r.key = some stored ∧
      stored.metadata.resourceVersion = r.metadata.resourceVersion ∧
      s'.get? = Function.update s.get? r.key
        (some (s.stamped { stored with status := status })) := by
  unfold writeStatus
  split
  · exact Or.inl ⟨_, _, rfl, rfl⟩
  · cases hs : s.get? r.key with
    | none => exact Or.inl ⟨_, _, rfl, rfl⟩
    | some stored =>
      by_cases hv : stored.metadata.resourceVersion = r.metadata.resourceVersion
      · refine Or.inr ⟨stored, _, if_neg (not_not.2 hv), rfl, hv, ?_⟩
        exact get?_put
      · exact Or.inl ⟨_, _, if_pos hv, rfl⟩

/-- What the stored object becomes under other finalizers. -/
def refinalized (s : Store k) (r : Resource k) (finalizers : List String) :
    Option (Resource k) :=
  if r.metadata.isDeleting && finalizers.isEmpty then none
  else some (s.stamped { r with metadata := { r.metadata with finalizers := some finalizers } })

theorem patchFinalizers_cases (s : Store k) (key : ObjectKey) (finalizers : List String) :
    (∃ e s', s.patchFinalizers key finalizers = (.error e, s') ∧ s'.get? = s.get?) ∨
    ∃ stored s', s.patchFinalizers key finalizers = (.ok (), s') ∧
      s.get? key = some stored ∧
      s'.get? = Function.update s.get? key (s.refinalized stored finalizers) := by
  unfold patchFinalizers refinalized
  simp only [get?]
  cases hs : s.objects.get? key with
  | none => exact Or.inl ⟨_, _, rfl, rfl⟩
  | some stored =>
    refine Or.inr ⟨stored, ?_⟩
    dsimp only
    split
    · refine ⟨_, rfl, rfl, ?_⟩
      rw [get?_erase, get?_put, Function.update_idem]
      rfl
    · exact ⟨_, rfl, rfl, get?_put⟩

/-- A user's deletion removes an object without finalizers and marks any other. -/
theorem delete_cases (s : Store k) (key : ObjectKey) (now : Timestamp) :
    (s.delete key now).get? = s.get? ∨ ∃ r, s.get? key = some r ∧
      (r.metadata.finalizerList = [] ∧ (s.delete key now).get? = Function.update s.get? key none ∨
        r.metadata.finalizerList ≠ [] ∧ (s.delete key now).get? = Function.update s.get? key
          (some (s.stamped
            { r with metadata := { r.metadata with deletionTimestamp := some now } }))) := by
  unfold delete
  cases hr : s.get? key with
  | none => exact Or.inl rfl
  | some r =>
    refine Or.inr ⟨r, rfl, ?_⟩
    dsimp only
    split
    · next hempty => exact Or.inl ⟨List.isEmpty_iff.1 hempty, get?_erase⟩
    · next hempty => exact Or.inr ⟨fun h => hempty (List.isEmpty_iff.2 h), get?_put⟩

end Store

namespace Platform
variable {p : Platform k} {id : String} {b : k.Body}

/-- An entity as it is right after its creation. -/
def newborn (id : String) (b : k.Body) : Entity k.Body :=
  ⟨id, none, some "2025-01-01T00:00:00Z", none, b⟩

/-- An entity as it is right after an update. -/
def renewed (e : Entity k.Body) (b : k.Body) : Entity k.Body :=
  { e with body := b, updatedAt := some "2025-01-02T00:00:00Z" }

/-- The identifier that the next entity gets. -/
def nextId (p : Platform k) : String :=
  match p.nextIds with
  | id :: _ => id
  | [] => s!"id-{p.madeIds + 1}"

theorem create_cases (p : Platform k) (b : k.Body) :
    (∃ e p', p.create b = (.error e, p') ∧ e.isNotFound = false ∧ p'.entity? = p.entity?) ∨
    ∃ p', p.create b = (.ok p.nextId, p') ∧
      p'.entity? = Function.update p.entity? p.nextId (some (newborn p.nextId b)) := by
  unfold create attempt nextId takeId
  dsimp only
  split
  · refine Or.inr ?_
    cases p.nextIds with
    | nil => exact ⟨_, rfl, SortedMap.get?_insert_eq _ _ _⟩
    | cons id ids => exact ⟨_, rfl, SortedMap.get?_insert_eq _ _ _⟩
  · exact Or.inl ⟨_, _, rfl, rfl, rfl⟩

theorem get_cases (p : Platform k) (id : String) :
    (∃ e p', p.get id = (.error e, p') ∧ (e.isNotFound = true → p.entity? id = none) ∧
      p'.entity? = p.entity?) ∨
    ∃ e p', p.get id = (.ok e, p') ∧ p.entity? id = some e ∧ p'.entity? = p.entity? := by
  unfold get attempt
  dsimp only [entity?]
  split
  · cases p.entities.get? id with
    | none => exact Or.inl ⟨_, _, rfl, fun _ => rfl, rfl⟩
    | some e => exact Or.inr ⟨e, _, rfl, rfl, rfl⟩
  · exact Or.inl ⟨_, _, rfl, by simp [RemoteError.isNotFound], rfl⟩

theorem update_cases (p : Platform k) (id : String) (b : k.Body) :
    (∃ e p', p.update id b = (.error e, p') ∧ p'.entity? = p.entity?) ∨
    ∃ e p', p.update id b = (.ok (renewed e b), p') ∧ p.entity? id = some e ∧
      p'.entity? = Function.update p.entity? id (some (renewed e b)) := by
  unfold update attempt
  dsimp only [entity?]
  split
  · cases p.entities.get? id with
    | none => exact Or.inl ⟨_, _, rfl, rfl⟩
    | some e => exact Or.inr ⟨e, _, rfl, rfl, SortedMap.get?_insert_eq _ _ _⟩
  · exact Or.inl ⟨_, _, rfl, rfl⟩

theorem delete_cases (p : Platform k) (id : String) :
    (∃ e p', p.delete id = (.error e, p') ∧ (e.isNotFound = true → p.entity? id = none) ∧
      p'.entity? = p.entity?) ∨
    ∃ p', p.delete id = (.ok (), p') ∧ p'.entity? = Function.update p.entity? id none := by
  unfold delete attempt
  dsimp only [entity?]
  split
  · cases p.entities.get? id with
    | none => exact Or.inl ⟨_, _, rfl, fun _ => rfl, rfl⟩
    | some e => exact Or.inr ⟨_, rfl, SortedMap.get?_erase_eq _ _⟩
  · exact Or.inl ⟨_, _, rfl, by simp [RemoteError.isNotFound], rfl⟩

end Platform

/-- Whether the cause is that the platform holds no such entity. -/
def FailureCause.isNotFound : FailureCause → Bool
  | .remote e => e.isNotFound
  | _ => false

/-- Whether a reason is that of a milestone in the life of an entity. -/
def Reason.isMilestone : Reason → Bool
  | .created | .updated | .deleted | .outOfScope => true
  | _ => false

theorem FailureCause.isMilestone_reason (cause : FailureCause) : cause.reason.isMilestone = false := by
  unfold reason
  split
  · rfl
  · rfl
  · split
    · rfl
    · rfl
    · rfl
    · rfl
    · unfold HttpStatus.reason
      split_ifs <;> rfl

/-- The call goes through, or it fails without effect; such a failure never reports an entity
missing. -/
def Turn.IsPlain : Turn k → Prop
  | .pass => True
  | .fail cause => cause.isNotFound = false
  | .meddle _ | .distort _ => False

/-- Nobody else acts, whatever else happens around the call. -/
def Turn.IsOwn : Turn k → Prop
  | .meddle _ => False
  | _ => True

theorem Turn.IsPlain.isOwn {t : Turn k} (h : t.IsPlain) : t.IsOwn := by
  cases t with
  | meddle => exact h
  | pass | fail | distort => trivial

namespace World
variable {α : Type} {w w' : World k} {r : Resource k} {key : ObjectKey} {id : String} {b : k.Body}
  {Q : α → World k → Prop} {E : Failure → World k → Prop} {site : Site}

/-- Calls may fail, but nobody interferes. -/
def Undisturbed (w : World k) : Prop := ∀ site, ∀ t ∈ w.plan site, t.IsPlain

/-- Calls may fail in any way and entities may be misreported, but nobody else acts. -/
def Alone (w : World k) : Prop := ∀ site, ∀ t ∈ w.plan site, t.IsOwn

theorem Undisturbed.alone (hw : w.Undisturbed) : w.Alone := fun site t ht => (hw site t ht).isOwn

/-- What is still to happen in the second world was to happen in the first. -/
def Continues (w w' : World k) : Prop := ∀ site, w'.plan site <:+ w.plan site

theorem Continues.refl (w : World k) : Continues w w := fun _ => List.suffix_rfl

theorem Continues.trans {w₁ w₂ w₃ : World k} (h₁ : Continues w₁ w₂) (h₂ : Continues w₂ w₃) :
    Continues w₁ w₃ := fun site => (h₂ site).trans (h₁ site)

theorem Undisturbed.continues (hw : w.Undisturbed) (h : Continues w w') : w'.Undisturbed :=
  fun site t ht => hw site t ((h site).mem ht)

theorem Alone.continues (hw : w.Alone) (h : Continues w w') : w'.Alone :=
  fun site t ht => hw site t ((h site).mem ht)

/-- Only the store may have changed, and still nobody interferes. -/
structure StoreStep (w w' : World k) : Prop where
  undisturbed : w'.Undisturbed
  platform : w'.platform = w.platform
  metrics : w'.metrics = w.metrics
  events : w'.events = w.events

/-- Only the platform may have changed, and still nobody interferes. -/
structure PlatformStep (w w' : World k) : Prop where
  undisturbed : w'.Undisturbed
  store : w'.store = w.store
  metrics : w'.metrics = w.metrics
  events : w'.events = w.events

/-- What is left of a plan after the next call at a site. -/
def planAfter (plan : Site → List (Turn k)) (site : Site) : Site → List (Turn k) :=
  fun s => if s = site then (plan s).tail else plan s

theorem continues_planAfter (w : World k) (site : Site) :
    Continues w { w with plan := planAfter w.plan site } := by
  intro s
  simp only [planAfter]
  split
  · exact List.tail_suffix _
  · exact List.suffix_rfl

theorem Undisturbed.planAfter (hw : w.Undisturbed) (site : Site) :
    Undisturbed { w with plan := World.planAfter w.plan site } :=
  hw.continues (continues_planAfter w site)

theorem ends_nextTurn {Q : Turn k → World k → Prop} :
    Ends (nextTurn site) w Q E ↔
      Q ((w.plan site).headD .pass) { w with plan := planAfter w.plan site } := Iff.rfl

theorem headD_plan (w : World k) (site : Site) :
    (w.plan site).headD .pass = .pass ∨ (w.plan site).headD .pass ∈ w.plan site := by
  cases w.plan site with
  | nil => exact Or.inl rfl
  | cons t ts => exact Or.inr List.mem_cons_self

theorem Undisturbed.isPlain_headD (hw : w.Undisturbed) (site : Site) :
    ((w.plan site).headD .pass).IsPlain := by
  rcases headD_plan w site with hpass | hmem
  · rw [hpass]
    trivial
  · exact hw site _ hmem

/-- Where nobody else acts, a call goes through or fails as planned, and its turn is over. -/
theorem Alone.around_planned {call : Run k α} (hw : w.Alone)
    (through : (∀ cause, (w.plan site).headD .pass ≠ .fail cause) →
      Ends call { w with plan := planAfter w.plan site } Q E)
    (failed : ∀ cause, (w.plan site).headD .pass = .fail cause →
      E (.ofCause cause) { w with plan := planAfter w.plan site }) :
    Ends (around site call) w Q E := by
  simp only [World.around, ends_bind, ends_nextTurn]
  cases hc : (w.plan site).headD .pass with
  | pass | distort => exact through fun cause hfail => by cases hc.symm.trans hfail
  | fail cause => exact failed cause hc
  | meddle change =>
    rcases headD_plan w site with hpass | hmem
    · cases hc.symm.trans hpass
    · have hmeddle : (Turn.meddle change).IsOwn := hw site _ (hc ▸ hmem)
      exact hmeddle.elim

/-- The same where it does not matter what is left of the plan. -/
theorem Alone.around {call : Run k α} (hw : w.Alone)
    (through : ∀ p, Continues w { w with plan := p } → Ends call { w with plan := p } Q E)
    (failed : ∀ p cause, Continues w { w with plan := p } → .fail cause ∈ w.plan site →
      E (.ofCause cause) { w with plan := p }) : Ends (around site call) w Q E := by
  have hrest := continues_planAfter w site
  refine hw.around_planned (fun _ => through _ hrest) ?_
  intro cause hc
  rcases headD_plan w site with hpass | hmem
  · cases hc.symm.trans hpass
  · exact failed _ cause hrest (hc ▸ hmem)

theorem around_ends {call : Run k α} (hw : w.Undisturbed)
    (through : ∀ p, Undisturbed { w with plan := p } → Ends call { w with plan := p } Q E)
    (failed : ∀ p cause, Undisturbed { w with plan := p } → cause.isNotFound = false →
      E (.ofCause cause) { w with plan := p }) : Ends (around site call) w Q E :=
  hw.alone.around (fun p hp => through p (hw.continues hp))
    fun p cause hp hmem => failed p cause (hw.continues hp) (hw site _ hmem)

theorem ends_onStore {step : Store k → Except StoreError α × Store k} :
    Ends (onStore step) w Q E ↔
      match step w.store with
      | (.ok a, s) => Q a { w with store := s }
      | (.error e, s) => E (.ofMessage e.message) { w with store := s } := by
  simp only [onStore, ends_bind, ends_get, ends_modify]
  rcases step w.store with ⟨_ | _, s⟩ <;> rfl

theorem ends_onPlatform {step : Platform k → Except RemoteError α × Platform k} :
    Ends (onPlatform step) w Q E ↔
      match step w.platform with
      | (.ok a, p) => Q a { w with platform := p }
      | (.error e, p) => E (.ofRemote e) { w with platform := p } := by
  simp only [onPlatform, ends_bind, ends_get, ends_modify]
  rcases step w.platform with ⟨_ | _, p⟩ <;> rfl

/-- So does a look-up, where it does not matter what is reported. -/
theorem Alone.getEntity {Q : World k → Prop} (hw : w.Alone)
    (through : ∀ p, Continues w { w with plan := p } →
      Ends (onPlatform fun p => p.get id) { w with plan := p } (fun _ => Q) E)
    (failed : ∀ p cause, Continues w { w with plan := p } →
      E (.ofCause cause) { w with plan := p }) : Ends (getEntity id) w (fun _ => Q) E := by
  have hthrough := through _ (continues_planAfter w .remoteGet)
  simp only [World.getEntity, ends_bind, ends_nextTurn]
  rcases headD_plan w .remoteGet with hpass | hmem
  · rw [hpass]
    exact hthrough
  · cases hc : (w.plan .remoteGet).headD .pass with
    | pass => exact hthrough
    | distort change =>
      simp only [ends_bind, ends_pure]
      exact hthrough
    | fail cause => exact failed _ cause (continues_planAfter w .remoteGet)
    | meddle change =>
      have hmeddle : (Turn.meddle change).IsOwn := hw .remoteGet _ (hc ▸ hmem)
      exact hmeddle.elim

/-- Only the store may have changed, by the next call at a site. -/
structure StoreCall (site : Site) (w w' : World k) : Prop where
  plan : w'.plan = planAfter w.plan site
  platform : w'.platform = w.platform
  metrics : w'.metrics = w.metrics
  events : w'.events = w.events

theorem StoreCall.continues (h : StoreCall site w w') : Continues w w' := by
  intro s
  rw [h.plan]
  exact continues_planAfter w site s

theorem StoreCall.step (h : StoreCall site w w') (hw : w.Undisturbed) : StoreStep w w' :=
  ⟨hw.continues h.continues, h.platform, h.metrics, h.events⟩

theorem Alone.load (hw : w.Alone) :
    Ends (load key) w
      (fun o w' => StoreCall .storeGet w w' ∧ w'.store = w.store ∧ o = w.store.get? key)
      (fun _ w' => StoreCall .storeGet w w' ∧ w'.store = w.store) :=
  hw.around_planned (fun _ => ⟨⟨rfl, rfl, rfl, rfl⟩, rfl, rfl⟩)
    fun _ _ => ⟨⟨rfl, rfl, rfl, rfl⟩, rfl⟩

theorem Alone.writeStatus {status : Option k.Status} (hw : w.Alone) :
    Ends (writeStatus r status) w
      (fun r' w' => StoreCall .writeStatus w w' ∧ ∃ stored, w.store.get? r.key = some stored ∧
        stored.metadata.resourceVersion = r.metadata.resourceVersion ∧
        r' = w.store.stamped { stored with status := status } ∧
        w'.store.get? = Function.update w.store.get? r.key (some r'))
      (fun _ w' => StoreCall .writeStatus w w' ∧ w'.store.get? = w.store.get?) := by
  refine hw.around_planned (fun _ => ?_) fun _ _ => ⟨⟨rfl, rfl, rfl, rfl⟩, rfl⟩
  rw [ends_onStore]
  rcases w.store.writeStatus_cases r status with ⟨e, s, hs, he⟩ | ⟨stored, s, hs, hstored, hv, he⟩
  · simp only [hs]
    exact ⟨⟨rfl, rfl, rfl, rfl⟩, he⟩
  · simp only [hs]
    exact ⟨⟨rfl, rfl, rfl, rfl⟩, stored, hstored, hv, rfl, he⟩

theorem Alone.patchFinalizers {finalizers : List String} (hw : w.Alone) :
    Ends (patchFinalizers r finalizers) w
      (fun _ w' => StoreCall .patchFinalizers w w' ∧ ∃ stored, w.store.get? r.key = some stored ∧
        w'.store.get? = Function.update w.store.get? r.key (w.store.refinalized stored finalizers))
      (fun _ w' => StoreCall .patchFinalizers w w' ∧ w'.store.get? = w.store.get?) := by
  refine hw.around_planned (fun _ => ?_) fun _ _ => ⟨⟨rfl, rfl, rfl, rfl⟩, rfl⟩
  rw [ends_onStore]
  obtain ⟨e, s, hs, he⟩ | ⟨stored, s, hs, hstored, he⟩ :=
    w.store.patchFinalizers_cases r.key finalizers
  · simp only [hs]
    exact ⟨⟨rfl, rfl, rfl, rfl⟩, he⟩
  · simp only [hs]
    exact ⟨⟨rfl, rfl, rfl, rfl⟩, stored, hstored, he⟩

theorem load_ends (hw : w.Undisturbed) :
    Ends (load key) w
      (fun o w' => StoreStep w w' ∧ w'.store = w.store ∧ o = w.store.get? key)
      (fun _ w' => StoreStep w w' ∧ w'.store = w.store) :=
  hw.alone.load.imp (fun _ _ h => ⟨h.1.step hw, h.2⟩) fun _ _ h => ⟨h.1.step hw, h.2⟩

theorem writeStatus_ends {status : Option k.Status} (hw : w.Undisturbed) :
    Ends (writeStatus r status) w
      (fun r' w' => StoreStep w w' ∧ ∃ stored, w.store.get? r.key = some stored ∧
        stored.metadata.resourceVersion = r.metadata.resourceVersion ∧
        r' = w.store.stamped { stored with status := status } ∧
        w'.store.get? = Function.update w.store.get? r.key (some r'))
      (fun _ w' => StoreStep w w' ∧ w'.store.get? = w.store.get?) :=
  hw.alone.writeStatus.imp (fun _ _ h => ⟨h.1.step hw, h.2⟩) fun _ _ h => ⟨h.1.step hw, h.2⟩

theorem patchFinalizers_ends {finalizers : List String} (hw : w.Undisturbed) :
    Ends (patchFinalizers r finalizers) w
      (fun _ w' => StoreStep w w' ∧ ∃ stored, w.store.get? r.key = some stored ∧
        w'.store.get? = Function.update w.store.get? r.key (w.store.refinalized stored finalizers))
      (fun _ w' => StoreStep w w' ∧ w'.store.get? = w.store.get?) :=
  hw.alone.patchFinalizers.imp (fun _ _ h => ⟨h.1.step hw, h.2⟩) fun _ _ h => ⟨h.1.step hw, h.2⟩

theorem createEntity_ends (hw : w.Undisturbed) :
    Ends (createEntity b) w
      (fun id w' => PlatformStep w w' ∧ id = w.platform.nextId ∧
        w'.platform.entity? = Function.update w.platform.entity? id (some (Platform.newborn id b)))
      (fun _ w' => PlatformStep w w' ∧ w'.platform.entity? = w.platform.entity?) := by
  refine around_ends hw ?_ fun _ _ hp _ => ⟨⟨hp, rfl, rfl, rfl⟩, rfl⟩
  intro p hp
  rw [ends_onPlatform]
  rcases w.platform.create_cases b with ⟨e, pl, hs, _, he⟩ | ⟨pl, hs, he⟩
  · simp only [hs]
    exact ⟨⟨hp, rfl, rfl, rfl⟩, he⟩
  · simp only [hs]
    exact ⟨⟨hp, rfl, rfl, rfl⟩, trivial, he⟩

theorem getEntity_ends (hw : w.Undisturbed) :
    Ends (getEntity id) w
      (fun e w' => PlatformStep w w' ∧ w.platform.entity? id = some e ∧
        w'.platform.entity? = w.platform.entity?)
      (fun f w' => PlatformStep w w' ∧ w'.platform.entity? = w.platform.entity? ∧
        (f.cause.isNotFound = true → w.platform.entity? id = none)) := by
  have ht := hw.isPlain_headD .remoteGet
  have hp := hw.planAfter .remoteGet
  have through : Ends (onPlatform fun p => p.get id) { w with plan := planAfter w.plan .remoteGet }
      (fun e w' => PlatformStep w w' ∧ w.platform.entity? id = some e ∧
        w'.platform.entity? = w.platform.entity?)
      (fun f w' => PlatformStep w w' ∧ w'.platform.entity? = w.platform.entity? ∧
        (f.cause.isNotFound = true → w.platform.entity? id = none)) := by
    rw [ends_onPlatform]
    rcases w.platform.get_cases id with ⟨e, pl, hs, hn, he⟩ | ⟨e, pl, hs, hh, he⟩
    · simp only [hs]
      exact ⟨⟨hp, rfl, rfl, rfl⟩, he, hn⟩
    · simp only [hs]
      exact ⟨⟨hp, rfl, rfl, rfl⟩, hh, he⟩
  simp only [getEntity, ends_bind, ends_nextTurn]
  cases hc : (w.plan .remoteGet).headD .pass with
  | pass => exact through
  | fail cause =>
    rw [hc] at ht
    exact ⟨⟨hp, rfl, rfl, rfl⟩, rfl, fun h => absurd h (Bool.not_eq_true _ ▸ ht)⟩
  | meddle => exact absurd ht (by simp only [hc, Turn.IsPlain, not_false_eq_true])
  | distort => exact absurd ht (by simp only [hc, Turn.IsPlain, not_false_eq_true])

theorem updateEntity_ends (hw : w.Undisturbed) :
    Ends (updateEntity id b) w
      (fun e' w' => PlatformStep w w' ∧ ∃ e, w.platform.entity? id = some e ∧
        e' = Platform.renewed e b ∧
        w'.platform.entity? = Function.update w.platform.entity? id (some e'))
      (fun _ w' => PlatformStep w w' ∧ w'.platform.entity? = w.platform.entity?) := by
  refine around_ends hw ?_ fun _ _ hp _ => ⟨⟨hp, rfl, rfl, rfl⟩, rfl⟩
  intro p hp
  rw [ends_onPlatform]
  rcases w.platform.update_cases id b with ⟨e, pl, hs, he⟩ | ⟨e, pl, hs, hh, he⟩
  · simp only [hs]
    exact ⟨⟨hp, rfl, rfl, rfl⟩, he⟩
  · simp only [hs]
    exact ⟨⟨hp, rfl, rfl, rfl⟩, e, hh, rfl, he⟩

theorem deleteEntity_ends (hw : w.Undisturbed) :
    Ends (deleteEntity id) w
      (fun _ w' => PlatformStep w w' ∧
        w'.platform.entity? = Function.update w.platform.entity? id none)
      (fun f w' => PlatformStep w w' ∧ w'.platform.entity? = w.platform.entity? ∧
        (f.cause.isNotFound = true → w.platform.entity? id = none)) := by
  refine around_ends hw ?_ fun p cause hp hn =>
    ⟨⟨hp, rfl, rfl, rfl⟩, rfl, fun h => absurd h (by simp [Failure.ofCause, hn])⟩
  intro p hp
  rw [ends_onPlatform]
  rcases w.platform.delete_cases id with ⟨e, pl, hs, hn, he⟩ | ⟨pl, hs, he⟩
  · simp only [hs]
    exact ⟨⟨hp, rfl, rfl, rfl⟩, he, hn⟩
  · simp only [hs]
    exact ⟨⟨hp, rfl, rfl, rfl⟩, he⟩

end World

end ResourceSync
