import ResourceSync.Proofs.History

/-! A pass is confined to one object and to the entities of that object, whichever of its calls
fail and however. -/
namespace ResourceSync

variable {k : Kind}

open World

/-- What a pass on `r` that creates an entity may leave under the new identifier: the entity, or
nothing once it is deleted again. -/
def Engine.MayMake (g : Engine k) (w : World k) (r : Resource k) (o : Option (Entity k.Body)) :
    Prop :=
  g.lifecycle r = .pendingCreation ∧ ∃ b, r.desiredBody = .ok b ∧
    (o = none ∨ o = some (Platform.newborn w.platform.nextId b))

/-- What a pass on the object under a key leaves alone. -/
structure Confined (g : Engine k) (key : ObjectKey) (w w' : World k) : Prop where
  others : ∀ place, place ≠ key → w'.store.get? place = w.store.get? place
  /-- Only the recorded entity and a new one may change. -/
  entities : ∀ id, w'.platform.entity? id = w.platform.entity? id ∨
    ∃ r, w.store.get? key = some r ∧ (r.remoteId = some id ∨
      id = w.platform.nextId ∧ g.MayMake w r (w'.platform.entity? id))
  /-- Of the object, only version, status and the own finalizer may change. -/
  kept : ∀ r', w'.store.get? key = some r' → ∃ r, w.store.get? key = some r ∧
    r'.IsVersionOf r ∧ r'.otherFinalizers k.finalizer = r.otherFinalizers k.finalizer ∧
    r'.metadata.finalizerList.count k.finalizer ≤ max (r.metadata.finalizerList.count k.finalizer) 1
  vanished : w'.store.get? key = none → ∀ r, w.store.get? key = some r →
    r.metadata.isDeleting = true ∧ r.otherFinalizers k.finalizer = []

/-- Up to its finalizer patch a pass on `r` writes nothing but the status of `r`, and it touches
none but its entities. -/
structure Within (g : Engine k) (r : Resource k) (w₀ w : World k) : Prop where
  alone : w.Alone
  objects : ∃ r' : Resource k, r'.IsVersionOf r ∧
    r'.metadata.finalizers = r.metadata.finalizers ∧
    w.store.get? = Function.update w₀.store.get? r.key (some r')
  entities : ∀ id, w.platform.entity? id = w₀.platform.entity? id ∨ r.remoteId = some id ∨
    id = w₀.platform.nextId ∧ g.MayMake w₀ r (w.platform.entity? id)

section within
variable {α : Type} {g : Engine k} {key : ObjectKey} {r r₁ : Resource k} {w₀ w w' : World k}
  {id : String} {b : k.Body} {status : Option k.Status} {finalizers : List String} {site : Site}

theorem Within.carried (h : Within g r w₀ w) (hw : w'.Alone) (hs : w'.store = w.store)
    (hp : w'.platform = w.platform) : Within g r w₀ w' :=
  ⟨hw, hs ▸ h.objects, hp ▸ h.entities⟩

theorem Within.continues (h : Within g r w₀ w) {p : Site → List (Turn k)}
    (hrest : Continues w { w with plan := p }) : Within g r w₀ { w with plan := p } :=
  h.carried (h.alone.continues hrest) rfl rfl

theorem Within.around {call : Run k α} {Q : α → World k → Prop} (h : Within g r w₀ w)
    (through : ∀ p, Within g r w₀ { w with plan := p } →
      Ends call { w with plan := p } Q fun _ w' => Within g r w₀ w') :
    Ends (around site call) w Q fun _ w' => Within g r w₀ w' :=
  h.alone.around (fun p hrest => through p (h.continues hrest))
    fun _ _ hrest _ => h.continues hrest

theorem Within.writeStatus (h : Within g r w₀ w) (hkey : r₁.key = r.key) :
    Ends (writeStatus r₁ status) w (fun r' w' => Within g r w₀ w' ∧ r'.key = r.key)
      (fun _ w' => Within g r w₀ w') := by
  refine h.around ?_
  intro p hp
  obtain ⟨r', hversion, hfin, ho⟩ := h.objects
  rw [ends_onStore]
  rcases w.store.writeStatus_cases r₁ status with ⟨e, s, hs, hsame⟩ | ⟨stored, s, hs, hr', -, hput⟩
  · simp only [hs]
    exact ⟨hp.alone, ⟨r', hversion, hfin, hsame.trans ho⟩, h.entities⟩
  · simp only [hs]
    rw [hkey, ho, Function.update_self] at hr'
    obtain rfl := Option.some.inj hr'
    rw [hkey, ho, Function.update_idem] at hput
    have hstamped := (Resource.IsVersionOf.stamped w.store r' status).trans hversion
    exact ⟨⟨hp.alone, ⟨_, hstamped, hfin, hput⟩, h.entities⟩, hstamped.key⟩

/-- A call of the platform is confined, if it touches nothing but the entities of `r`. -/
theorem Within.onPlatform {step : Platform k → Except RemoteError α × Platform k}
    (h : Within g r w₀ w)
    (hstep : ∀ id, (step w.platform).2.entity? id = w.platform.entity? id ∨
      r.remoteId = some id ∨
      id = w₀.platform.nextId ∧ g.MayMake w₀ r ((step w.platform).2.entity? id)) :
    Ends (onPlatform step) w (fun _ w' => Within g r w₀ w') (fun _ w' => Within g r w₀ w') := by
  have hentities (id : String) : (step w.platform).2.entity? id = w₀.platform.entity? id ∨
      r.remoteId = some id ∨
      id = w₀.platform.nextId ∧ g.MayMake w₀ r ((step w.platform).2.entity? id) := by
    rcases hstep id with hsame | hown
    · rw [hsame]
      exact h.entities id
    · exact Or.inr hown
  rw [ends_onPlatform]
  split
  · next heq => exact ⟨h.alone, h.objects, by simpa only [heq] using hentities⟩
  · next heq => exact ⟨h.alone, h.objects, by simpa only [heq] using hentities⟩

theorem Within.getEntity (h : Within g r w₀ w) :
    Ends (getEntity id : Run k (Entity k.Body)) w (fun _ w' => Within g r w₀ w')
      (fun _ w' => Within g r w₀ w') := by
  refine h.alone.getEntity ?_ fun _ _ hrest => h.continues hrest
  intro p hrest
  refine (h.continues hrest).onPlatform ?_
  intro id'
  rcases w.platform.get_cases id with ⟨e, p', hs, -, he⟩ | ⟨e, p', hs, -, he⟩
  all_goals
    refine Or.inl ?_
    simp only [hs, he]

theorem Within.createEntity (h : Within g r w₀ w) (hp : w.platform = w₀.platform)
    (due : g.lifecycle r = .pendingCreation) (hb : r.desiredBody = .ok b) :
    Ends (createEntity b) w (fun id w' => Within g r w₀ w' ∧ id = w₀.platform.nextId)
      (fun _ w' => Within g r w₀ w') := by
  refine h.around ?_
  intro p hwithin
  rw [ends_onPlatform]
  dsimp only
  rcases w.platform.create_cases b with ⟨e, p', hs, -, he⟩ | ⟨p', hs, he⟩
  · rw [hs]
    exact ⟨hwithin.alone, h.objects, by simpa only [he] using h.entities⟩
  · rw [hs]
    refine ⟨⟨hwithin.alone, h.objects, ?_⟩, by rw [hp]⟩
    intro id
    dsimp only
    rw [he, hp, Function.update_apply]
    split
    · next heq => exact Or.inr (Or.inr ⟨heq, due, b, hb, Or.inr rfl⟩)
    · exact Or.inl rfl

/-- The recorded entity may be deleted, and so may one that was just created. -/
theorem Within.deleteEntity (h : Within g r w₀ w)
    (hown : r.remoteId = some id ∨ id = w₀.platform.nextId ∧ g.MayMake w₀ r none) :
    Ends (deleteEntity id) w (fun _ w' => Within g r w₀ w') (fun _ w' => Within g r w₀ w') := by
  refine h.around ?_
  intro p hwithin
  refine hwithin.onPlatform ?_
  intro id'
  dsimp only
  rcases w.platform.delete_cases id with ⟨e, p', hs, -, he⟩ | ⟨p', hs, he⟩
  · exact Or.inl (by rw [hs, he])
  · rw [hs, he, Function.update_apply]
    split
    · next heq => exact Or.inr (heq ▸ hown)
    · exact Or.inl rfl

theorem Within.updateEntity (h : Within g r w₀ w) (hid : r.remoteId = some id) :
    Ends (updateEntity id b) w (fun _ w' => Within g r w₀ w') (fun _ w' => Within g r w₀ w') := by
  refine h.around ?_
  intro p hwithin
  refine hwithin.onPlatform ?_
  intro id'
  dsimp only
  rcases w.platform.update_cases id b with ⟨e, p', hs, he⟩ | ⟨e, p', hs, -, he⟩
  · exact Or.inl (by rw [hs, he])
  · rw [hs, he, Function.update_apply]
    split
    · next heq => exact Or.inr (Or.inl (heq ▸ hid))
    · exact Or.inl rfl

theorem Within.observe {tracked : Resource k} {e : Entity k.Body} (h : Within g r w₀ w)
    (hkey : r₁.key = r.key) :
    Ends (if r₁.status ≠ some (k.observedStatus e) then do
        discard (World.writeStatus r₁ (some (k.observedStatus e)))
        tracked.track
      else tracked.track) w (fun _ w' => Within g r w₀ w') (fun _ w' => Within g r w₀ w') := by
  split
  · simp only [ends_bind, ends_discard]
    refine (h.writeStatus hkey).imp ?_ fun _ _ h => h
    rintro - w₁ ⟨h₁, -⟩
    exact h₁.carried h₁.alone rfl rfl
  · exact h.carried h.alone rfl rfl

theorem Within.create (h : Within g r w₀ w) (hp : w.platform = w₀.platform)
    (due : g.lifecycle r = .pendingCreation) :
    Ends r.createEntity w (fun _ w' => Within g r w₀ w') (fun _ w' => Within g r w₀ w') := by
  unfold Resource.createEntity Resource.body
  simp only [ends_bind, ends_during, ends_attempt, ends_discard, ends_pure, ends_throw]
  cases hb : r.desiredBody with
  | error e => exact h
  | ok b =>
    refine (h.createEntity hp due hb).imp ?_ fun _ _ h => h
    rintro id w₁ ⟨h₁, rfl⟩
    rw [ends_countOperation]
    have h₁ : Within g r w₀ { w₁ with
        metrics := w₁.metrics.recordOperation k.name Operation.create.name } :=
      h₁.carried h₁.alone rfl rfl
    refine (h₁.writeStatus rfl).imp ?_ ?_
    · rintro stored w₂ ⟨h₂, hkey⟩
      exact h₂.getEntity.imp (fun _ _ h₃ => h₃.observe hkey) fun _ _ h => h
    · intro f w₂ h₂
      have hown : r.remoteId = some w₀.platform.nextId ∨
          w₀.platform.nextId = w₀.platform.nextId ∧ g.MayMake w₀ r none :=
        Or.inr ⟨rfl, due, b, hb, Or.inl rfl⟩
      exact h₂.deleteEntity hown

theorem Within.update (h : Within g r w₀ w) (hid : r.remoteId = some id) :
    Ends r.updateEntity w (fun _ w' => Within g r w₀ w') (fun _ w' => Within g r w₀ w') := by
  unfold Resource.updateEntity Resource.body
  simp only [hid, Option.getD_some, ends_bind, ends_attempt]
  refine h.getEntity.imp ?_ ?_
  · intro e w₁ h₁
    rw [ends_pure]
    cases r.desiredBody with
    | error e => exact h₁
    | ok desired =>
      rw [ends_pure]
      split
      · rw [pure_bind]
        exact h₁.observe rfl
      · simp only [ends_bind, ends_during]
        refine (h₁.updateEntity hid).imp ?_ fun _ _ h => h
        intro e' w₂ h₂
        simp only [ends_countOperation, ends_publish, ends_pure]
        exact Within.observe (h₂.carried (by exact h₂.alone) rfl rfl) rfl
  · intro f w₁ h₁
    split
    · simp only [ends_bind, ends_publish, ends_discard]
      refine Ends.imp (Within.writeStatus (h₁.carried (by exact h₁.alone) rfl rfl) rfl) ?_
        fun _ _ h => h
      rintro - w₂ ⟨h₂, -⟩
      exact h₂.carried h₂.alone rfl rfl
    · exact h₁

theorem Within.delete (h : Within g r w₀ w) :
    Ends r.deleteEntity w (fun _ w' => Within g r w₀ w') (fun _ w' => Within g r w₀ w') := by
  unfold Resource.deleteEntity
  cases hid : r.remoteId with
  | none => exact h
  | some id =>
    simp only [ends_bind, ends_attempt]
    refine (h.deleteEntity (Or.inl hid)).imp ?_ ?_
    · intro _ w₁ h₁
      exact h₁.carried h₁.alone rfl rfl
    · intro f w₁ h₁
      split
      · exact h₁.carried h₁.alone rfl rfl
      · exact h₁

end within

section confined
variable {g : Engine k} {key : ObjectKey} {r r₁ : Resource k} {w₀ w w₁ w₂ : World k}
  {finalizers : List String}

/-- Metrics and events are free to change. -/
theorem Confined.carried (h : Confined g key w w₁) (hs : w₂.store = w₁.store)
    (hp : w₂.platform = w₁.platform) : Confined g key w w₂ :=
  ⟨hs ▸ h.others, hp ▸ h.entities, hs ▸ h.kept, hs ▸ h.vanished⟩

theorem confined_of_eq (hs : w₁.store = w.store) (hp : w₁.platform = w.platform) :
    Confined g key w w₁ where
  others _ _ := by rw [hs]
  entities _ := Or.inl (by rw [hp])
  kept r' hr' := ⟨r', hs ▸ hr', .refl r', rfl, Nat.le_max_left _ _⟩
  vanished hnone r hr := by
    rw [hs, hr] at hnone
    cases hnone

/-- Whatever replaces the object in the end has to keep what is not the operator's. -/
theorem Within.confined_of_update {o : Option (Resource k)} (h : Within g r w₀ w)
    (hr : w₀.store.get? r.key = some r) (hp : w₁.platform = w.platform)
    (ho : w₁.store.get? = Function.update w₀.store.get? r.key o)
    (hkept : ∀ r' ∈ o, r'.IsVersionOf r ∧
      r'.otherFinalizers k.finalizer = r.otherFinalizers k.finalizer ∧
      r'.metadata.finalizerList.count k.finalizer ≤
        max (r.metadata.finalizerList.count k.finalizer) 1)
    (hgone : o = none → r.metadata.isDeleting = true ∧ r.otherFinalizers k.finalizer = []) :
    Confined g r.key w₀ w₁ where
  others place hplace := by rw [ho, Function.update_of_ne hplace]
  entities id := by
    rw [hp]
    rcases h.entities id with hsame | hown
    · exact Or.inl hsame
    · exact Or.inr ⟨r, hr, hown⟩
  kept r' hr' := by
    rw [ho, Function.update_self] at hr'
    exact ⟨r, hr, hkept r' hr'⟩
  vanished hnone r₁ hr₁ := by
    rw [ho, Function.update_self] at hnone
    obtain rfl := Option.some.inj (hr.symm.trans hr₁)
    exact hgone hnone

theorem Within.confined (h : Within g r w₀ w) (hr : w₀.store.get? r.key = some r) :
    Confined g r.key w₀ w := by
  obtain ⟨r', hversion, hfin, ho⟩ := h.objects
  refine h.confined_of_update hr rfl ho ?_ (fun hnone => by cases hnone)
  rintro r₁ hr₁
  obtain rfl := Option.some.inj hr₁
  refine ⟨hversion, Resource.otherFinalizers_eq_of_finalizers hfin, ?_⟩
  rw [Resource.finalizerList_eq_of_finalizers hfin]
  exact Nat.le_max_left _ _

/-- The finalizers that a pass writes are those that it has read, but for its own. -/
theorem Within.patchFinalizers (h : Within g r w₀ w) (hr : w₀.store.get? r.key = some r)
    (hkey : r₁.key = r.key)
    (hothers : finalizers.filter (fun f => f ≠ k.finalizer) = r.otherFinalizers k.finalizer)
    (hcount : finalizers.count k.finalizer ≤
      max (r.metadata.finalizerList.count k.finalizer) 1) :
    Ends (patchFinalizers r₁ finalizers) w (fun _ w' => Confined g r.key w₀ w')
      (fun _ w' => Confined g r.key w₀ w') := by
  refine (h.around ?_).imp (fun _ _ h => h) fun _ _ h => h.confined hr
  intro p hp
  obtain ⟨r', hversion, hfin, ho⟩ := h.objects
  rw [ends_onStore]
  rcases w.store.patchFinalizers_cases r₁.key finalizers with
    ⟨e, s, hs, hsame⟩ | ⟨stored, s, hs, hr', hput⟩
  · simp only [hs]
    exact ⟨hp.alone, ⟨r', hversion, hfin, hsame.trans ho⟩, h.entities⟩
  · simp only [hs]
    rw [hkey, ho, Function.update_self] at hr'
    obtain rfl := Option.some.inj hr'
    rw [hkey, ho, Function.update_idem] at hput
    refine h.confined_of_update hr rfl hput ?_ ?_
    · intro r'' hr''
      obtain ⟨hversion', -, hfin'⟩ := Store.refinalized_eq_some hr''
      have hlist : r''.metadata.finalizerList = finalizers := by
        simp only [Metadata.finalizerList, hfin', Option.getD_some]
      refine ⟨hversion'.trans hversion, ?_, ?_⟩
      · rw [Resource.otherFinalizers, hlist, hothers]
      · rw [hlist]
        exact hcount
    · intro hnone
      obtain ⟨hdeleting, rfl⟩ := Store.refinalized_eq_none_iff.1 hnone
      exact ⟨hversion.isDeleting ▸ hdeleting, hothers.symm⟩

theorem Within.ensureFinalizer (h : Within g r w₀ w) (hr : w₀.store.get? r.key = some r)
    (hkey : r₁.key = r.key) (hfin : r₁.metadata.finalizers = r.metadata.finalizers) :
    Ends (ensureFinalizer r₁ k.finalizer) w (fun _ w' => Confined g r.key w₀ w')
      (fun _ w' => Confined g r.key w₀ w') := by
  have hlist := Resource.finalizerList_eq_of_finalizers hfin
  unfold ResourceSync.ensureFinalizer
  split
  · exact h.confined hr
  · next hmissing =>
    have hnone : r.metadata.finalizerList.count k.finalizer = 0 := by
      rw [List.count_eq_zero, ← hlist]
      simpa [Resource.hasFinalizer] using hmissing
    refine h.patchFinalizers hr hkey ?_ ?_
    · simp [Resource.otherFinalizers, hlist]
    · simp [hlist, hnone]

theorem Within.removeFinalizer (h : Within g r w₀ w) (hr : w₀.store.get? r.key = some r) :
    Ends (removeFinalizer r k.finalizer) w (fun _ w' => Confined g r.key w₀ w')
      (fun _ w' => Confined g r.key w₀ w') := by
  unfold ResourceSync.removeFinalizer
  split
  · refine h.patchFinalizers hr rfl ?_ ?_
    · simp [Resource.otherFinalizers]
    · have hgone : (r.metadata.finalizerList.filter fun f => f ≠ k.finalizer).count
          k.finalizer = 0 := List.count_eq_zero.2 (by simp)
      rw [hgone]
      exact Nat.zero_le _
  · exact h.confined hr

theorem Within.pendingCreation (h : Within g r w₀ w) (hp : w.platform = w₀.platform)
    (due : g.lifecycle r = .pendingCreation) (hr : w₀.store.get? r.key = some r) :
    Ends (Engine.pendingCreation r) w (fun _ w' => Confined g r.key w₀ w')
      (fun _ w' => Confined g r.key w₀ w') := by
  unfold Engine.pendingCreation
  simp only [ends_bind, ends_during]
  refine (h.create hp due).imp ?_ fun _ _ h => h.confined hr
  intro _ w₁ h₁
  refine Ends.imp (h₁.around fun p hwithin => ?_) (fun _ _ h => h) fun _ _ h => h.confined hr
  obtain ⟨r', hversion, hfin, ho⟩ := h₁.objects
  simp only [ends_bind, ends_get, ends_pure, ho, Function.update_self, ends_during, ends_publish]
  exact (hwithin.ensureFinalizer hr hversion.key hfin).imp (fun _ _ h => h.carried rfl rfl)
    fun _ _ h => h

theorem Within.transition (h : Within g r w₀ w) (hp : w.platform = w₀.platform)
    (hr : w₀.store.get? r.key = some r) :
    Ends (g.transition r) w (fun _ w' => Confined g r.key w₀ w')
      (fun _ w' => Confined g r.key w₀ w') := by
  unfold Engine.transition
  cases due : g.lifecycle r with
  | pendingCreation => exact h.pendingCreation hp due hr
  | pendingDeletion =>
    simp only [Engine.pendingDeletion, ends_bind, ends_during]
    refine h.delete.imp ?_ fun _ _ h => h.confined hr
    intro _ w₁ h₁
    exact (h₁.removeFinalizer hr).imp (fun _ _ h => h.carried rfl rfl) fun _ _ h => h
  | outOfScope =>
    simp only [Engine.outOfScope]
    split
    · simp only [ends_bind, ends_during]
      exact h.delete.imp (fun _ _ h => (h.confined hr).carried rfl rfl)
        fun _ _ h => h.confined hr
    · exact h.confined hr
  | active =>
    obtain ⟨id, hid⟩ := Option.ne_none_iff_exists'.1 (Engine.lifecycle_eq_active_iff.1 due).1
    simp only [Engine.active, ends_bind, ends_during]
    refine (h.update hid).imp ?_ fun _ _ h => h.confined hr
    intro _ w₁ h₁
    cases g.successRequeue <;> exact h₁.confined hr

/-- Whichever calls of a pass fail, and however, it leaves alone every other object, every entity
but the recorded one and a new one, and of the object itself all that is not its own: only an
object that is marked for deletion and that nobody else holds may vanish. -/
theorem pass_is_confined (g : Engine k) (key : ObjectKey) (elapsed : Duration) (hw : w.Alone)
    (hs : w.store.Placed) : Confined g key w (World.after (g.reconcile key elapsed) w) := by
  refine Ends.after ?_
  unfold Engine.reconcile
  simp only [ends_bind, ends_during]
  refine hw.around (fun p hrest => ?_) fun _ _ _ _ => confined_of_eq rfl rfl
  simp only [ends_bind, ends_get, ends_pure]
  cases hr : w.store.get? key with
  | none => exact confined_of_eq rfl rfl
  | some r =>
    obtain rfl := hs key r hr
    have hwithin : Within g r w { w with plan := p } :=
      ⟨hw.continues hrest, ⟨r, .refl r, rfl, (Function.update_eq_self_iff.2 hr.symm).symm⟩,
        fun _ => Or.inl rfl⟩
    simp only [ends_bind, ends_attempt]
    exact (hwithin.transition rfl hr).imp (fun _ _ h => h.carried rfl rfl)
      fun _ _ h => h.carried rfl rfl

end confined

/-- Two teams with an entity each; that of the first is held by someone else too, and the platform
is about to deny that its entity is there. -/
def Sample.denied : World .team :=
  let held : Resource .team :=
    { Sample.team with
      metadata := { Sample.team.metadata with finalizers := some ["other.io/hold"] }
      status := some (⟨some "e-1"⟩ : IdStatus) }
  let other : Resource .team :=
    { Sample.team with
      metadata := { Sample.team.metadata with name := some "beta" }
      status := some (⟨some "e-2"⟩ : IdStatus) }
  let entity (id : String) : Entity (Kind.Body .team) :=
    Platform.newborn id (⟨"alpha", "", [], none⟩ : TeamBody)
  let w : World .team :=
    { World.empty [] with
      store := (Store.empty.insert held).insert other
      platform :=
        { Platform.ofIds (k := .team) [] with
          entities := (SortedMap.empty.insert "e-1" (entity "e-1")).insert "e-2" (entity "e-2") } }
  w.under (.once .remoteGet (.fail (.remote (.notFound "/fake/e-1"))))

/-- A pass that is told so gives the identifier up and fails, and yet it is confined. -/
theorem denied_pass_is_confined :
    let w := Sample.denied
    let w' := World.after (Sample.engine.reconcile Sample.key .zero) w
    (∃ f, Sample.engine.reconcile Sample.key .zero w = .error f w') ∧
      (w'.store.get? Sample.key).map (·.remoteId) = some none ∧
      Confined Sample.engine Sample.key w w' := by
  intro w w'
  have hw : w.Alone := Circumstances.AreOwn.under (Circumstances.once_areOwn (by trivial)) _
  have hs : w.store.Placed := (Store.placed_empty.insert _).insert _
  exact ⟨⟨_, rfl⟩, rfl, pass_is_confined Sample.engine Sample.key .zero hw hs⟩

end ResourceSync
