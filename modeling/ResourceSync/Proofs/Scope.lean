import ResourceSync.Proofs.Release

/-! What a pass does about an object out of scope: at most it deletes the entity that the object
records and takes the finalizer off, once the object is marked for deletion. -/
namespace ResourceSync

variable {k : Kind}

open World

section scope
variable {g : Engine k} {key : ObjectKey} {elapsed : Duration} {r : Resource k} {w w₁ w' : World k}

theorem statusWrites_patchFinalizers (s : Store k) (place : ObjectKey) (finalizers : List String) :
    (s.patchFinalizers place finalizers).2.statusWrites = s.statusWrites := by
  unfold Store.patchFinalizers
  dsimp only
  split
  · rfl
  · split <;> rfl

/-- At most one call was made, which was to delete the recorded entity. -/
structure AtMostDeletes (r : Resource k) (w w' : World k) : Prop where
  alone : w'.Alone
  store : w'.store = w.store
  plan : ∀ site, site ≠ .remoteDelete → w'.plan site = w.plan site
  platform : w'.plan .remoteDelete = w.plan .remoteDelete ∧ w'.platform = w.platform ∨
    ∃ id, r.remoteId = some id ∧ w'.plan .remoteDelete = (w.plan .remoteDelete).tail ∧
      (w'.platform = w.platform ∨ w'.platform = (w.platform.delete id).2)

theorem AtMostDeletes.refl (r : Resource k) (hw : w.Alone) : AtMostDeletes r w w :=
  ⟨hw, rfl, fun _ _ => rfl, Or.inl ⟨rfl, rfl⟩⟩

theorem AtMostDeletes.carried (h : AtMostDeletes r w w₁) (m : Metrics) (es : List Event) :
    AtMostDeletes r w { w₁ with metrics := m, events := es } :=
  ⟨h.alone, h.store, h.plan, h.platform⟩

theorem atMostDeletes_call {id : String} (hid : r.remoteId = some id) (hw : w.Alone) :
    Ends (World.deleteEntity id) w (fun _ => AtMostDeletes r w) (fun _ => AtMostDeletes r w) := by
  have hcall {p : Platform k} (hp : p = w.platform ∨ p = (w.platform.delete id).2) :
      AtMostDeletes r w { w with plan := planAfter w.plan .remoteDelete, platform := p } :=
    ⟨hw.continues (continues_planAfter w .remoteDelete), rfl, fun _ hs => if_neg hs,
      Or.inr ⟨id, hid, rfl, hp⟩⟩
  refine hw.around_planned (fun _ => ?_) fun _ _ => hcall (Or.inl rfl)
  rw [ends_onPlatform]
  rcases hd : w.platform.delete id with ⟨_ | _, p⟩ <;> exact hcall (Or.inr (by rw [hd]))

theorem atMostDeletes_deleteEntity (r : Resource k) (hw : w.Alone) :
    Ends r.deleteEntity w (fun _ => AtMostDeletes r w) (fun _ => AtMostDeletes r w) := by
  unfold Resource.deleteEntity
  cases hid : r.remoteId with
  | none => exact .refl r hw
  | some id =>
    simp only [ends_bind, ends_attempt, Resource.countOperation, Resource.untrack, ends_measure]
    refine (atMostDeletes_call hid hw).imp (fun _ w₁ h => h.carried _ _) ?_
    intro f w₁ h
    split
    · exact h.carried _ _
    · exact h

/-- All that a pass may do about an object that is out of scope. -/
structure Retires (key : ObjectKey) (r : Resource k) (w w' : World k) : Prop where
  /-- Nothing is created, looked up or updated, and no status is written. -/
  plan : ∀ site, site = .remoteCreate ∨ site = .remoteGet ∨ site = .remoteUpdate ∨
    site = .writeStatus → w'.plan site = w.plan site
  statusWrites : w'.store.statusWrites = w.store.statusWrites
  /-- One entity may be deleted, the recorded one and by one call. -/
  platform : w'.plan .remoteDelete = w.plan .remoteDelete ∧ w'.platform = w.platform ∨
    ∃ id, r.remoteId = some id ∧ w'.plan .remoteDelete = (w.plan .remoteDelete).tail ∧
      (w'.platform = w.platform ∨ w'.platform = (w.platform.delete id).2)
  /-- Nothing at all is written, unless the object is marked for deletion. -/
  unmarked : r.metadata.isDeleting = false → w'.store = w.store
  /-- A marked object may lose a finalizer or vanish. -/
  marked : ∀ r', w'.store.get? key = some r' → r'.status = r.status ∧
    r'.metadata.finalizerList.Sublist r.metadata.finalizerList
  others : ∀ key', key' ≠ key → w'.store.get? key' = w.store.get? key'

theorem AtMostDeletes.retires (h : AtMostDeletes r w w') (hr : w.store.get? key = some r) :
    Retires key r w w' where
  plan site hsite := h.plan site (by rintro rfl; simp at hsite)
  statusWrites := by rw [h.store]
  platform := h.platform
  unmarked _ := h.store
  marked r' hr' := by
    rw [h.store, hr] at hr'
    obtain rfl := Option.some.inj hr'
    exact ⟨rfl, List.Sublist.refl _⟩
  others key' _ := by rw [h.store]

theorem Retires.carried (h : Retires key r w w₁) (m : Metrics) (es : List Event) :
    Retires key r w { w₁ with metrics := m, events := es } :=
  ⟨h.plan, h.statusWrites, h.platform, h.unmarked, h.marked, h.others⟩

theorem removeFinalizer_eq (r : Resource k) (finalizer : String) : removeFinalizer r finalizer =
    if r.hasFinalizer finalizer then World.patchFinalizers r (r.otherFinalizers finalizer)
    else pure () := rfl

/-- The call that loads the object does not matter. -/
theorem Retires.of_loaded (h : Retires key r { w with plan := planAfter w.plan .storeGet } w') :
    Retires key r w w' := by
  refine ⟨?_, h.statusWrites, h.platform, h.unmarked, h.marked, h.others⟩
  intro site hsite
  refine (h.plan site hsite).trans (if_neg ?_)
  rintro rfl
  simp at hsite

/-- Taking the finalizer off is the one write that is left. -/
theorem AtMostDeletes.removeFinalizer (h : AtMostDeletes r w w₁) (hr : w.store.get? r.key = some r)
    (hdeleting : r.metadata.isDeleting = true) :
    Ends (removeFinalizer r k.finalizer) w₁ (fun _ => Retires r.key r w)
      (fun _ => Retires r.key r w) := by
  have hr₁ : w₁.store.get? r.key = some r := h.store ▸ hr
  -- the turn of the patch is none of those that have to be left
  have hpatch {s : Store k} (hs : s.statusWrites = w₁.store.statusWrites)
      (ho : s.get? = w₁.store.get? ∨ s.get? = Function.update w₁.store.get? r.key
        (w₁.store.refinalized r (r.otherFinalizers k.finalizer))) :
      Retires r.key r w { w₁ with plan := planAfter w₁.plan .patchFinalizers, store := s } := by
    refine ⟨?_, hs.trans (by rw [h.store]), h.platform,
      fun hkept => absurd hdeleting (by simp [hkept]), ?_, ?_⟩
    · intro site hsite
      refine Eq.trans (if_neg ?_) (h.plan site ?_) <;> rintro rfl <;> simp at hsite
    · intro r' hr'
      rcases ho with ho | ho
      · rw [ho, hr₁] at hr'
        obtain rfl := Option.some.inj hr'
        exact ⟨rfl, List.Sublist.refl _⟩
      · rw [ho, Function.update_self] at hr'
        obtain ⟨-, hstatus, hfin⟩ := Store.refinalized_eq_some hr'
        refine ⟨hstatus, ?_⟩
        rw [Metadata.finalizerList, hfin]
        exact List.filter_sublist
    · intro key' hkey'
      rcases ho with ho | ho
      · rw [ho, h.store]
      · rw [ho, Function.update_of_ne hkey', h.store]
  rw [removeFinalizer_eq]
  split
  · refine h.alone.around_planned (fun _ => ?_) fun _ _ => hpatch rfl (Or.inl rfl)
    have hwrites := statusWrites_patchFinalizers w₁.store r.key (r.otherFinalizers k.finalizer)
    rw [ends_onStore]
    rcases w₁.store.patchFinalizers_cases r.key (r.otherFinalizers k.finalizer) with
      ⟨e, s, hs, ho⟩ | ⟨stored, s, hs, hstored, ho⟩
    · simp only [hs] at hwrites ⊢
      exact hpatch hwrites (Or.inl ho)
    · obtain rfl := Option.some.inj (hr₁.symm.trans hstored)
      simp only [hs] at hwrites ⊢
      exact hpatch hwrites (Or.inr ho)
  · exact h.retires hr

/-- A pass on an object out of scope does no more than to retire it. -/
theorem retires_transition (hw : w.Alone) (hr : w.store.get? r.key = some r)
    (hout : g.inScope r = false) :
    Ends (g.transition r) w (fun _ => Retires r.key r w) (fun _ => Retires r.key r w) := by
  have hdelete := atMostDeletes_deleteEntity r hw
  unfold Engine.transition
  cases hdeleting : r.metadata.isDeleting with
  | true =>
    rw [Engine.lifecycle_eq_pendingDeletion_iff.2 ⟨hdeleting, fun _ => hout⟩]
    simp only [Engine.pendingDeletion, ends_bind, ends_during, ends_publish, ends_pure]
    refine hdelete.imp ?_ fun _ _ h => h.retires hr
    intro _ w₁ h₁
    exact (h₁.removeFinalizer hr hdeleting).imp (fun _ _ h => h.carried _ _) fun _ _ h => h
  | false =>
    rw [Engine.lifecycle_eq_outOfScope_iff.2 ⟨hdeleting, hout⟩]
    simp only [Engine.outOfScope]
    split
    · simp only [ends_bind, ends_during, ends_publish, ends_pure]
      exact hdelete.imp (fun _ _ h => (h.retires hr).carried _ _) fun _ _ h => h.retires hr
    · exact (AtMostDeletes.refl r hw).retires hr

/-- No call was made but the one that loads the object. -/
structure OnlyLoads (w w' : World k) : Prop where
  plan : ∀ site, site ≠ .storeGet → w'.plan site = w.plan site
  store : w'.store = w.store
  platform : w'.platform = w.platform

/-- Nothing is due for an object that is not the engine's business. -/
theorem idle_of_not_admits (hnot : g.admits r = false) : Ends (g.transition r) w
    (fun next w' => next = .onChange ∧ w'.plan = w.plan ∧ w'.store = w.store ∧
      w'.platform = w.platform) (fun _ _ => False) := by
  simp only [Engine.admits, Bool.or_eq_false_iff, Option.isSome_eq_false_iff,
    Option.isNone_iff_eq_none] at hnot
  obtain ⟨⟨hout, hid⟩, hfin⟩ := hnot
  unfold Engine.transition
  cases hdeleting : r.metadata.isDeleting with
  | true =>
    rw [Engine.lifecycle_eq_pendingDeletion_iff.2 ⟨hdeleting, fun _ => hout⟩]
    simp [Engine.pendingDeletion, Resource.deleteEntity, removeFinalizer_eq, hid, hfin, ends_bind]
  | false =>
    rw [Engine.lifecycle_eq_outOfScope_iff.2 ⟨hdeleting, hout⟩]
    simp [Engine.outOfScope, hid]

/-- Whichever calls of a pass on an object out of scope fail, it does no more than to retire the
object; and on an object that is not the engine's business it only loads it, to find nothing due. -/
theorem out_of_scope_pass (g : Engine k) (elapsed : Duration) (hw : w.Alone)
    (hr : w.store.get? key = some r) (hkey : r.key = key) (hout : g.inScope r = false) :
    Retires key r w (after (g.reconcile key elapsed) w) ∧
      (g.admits r = false → Ends (g.reconcile key elapsed) w
        (fun next w' => next = .onChange ∧ OnlyLoads w w')
        (fun _ w' => (∃ cause, (w.plan .storeGet).headD .pass = .fail cause) ∧ OnlyLoads w w')) := by
  subst hkey
  have hw₁ : Alone { w with plan := planAfter w.plan .storeGet } :=
    hw.continues (continues_planAfter w .storeGet)
  simp only [Engine.reconcile, ends_bind, ends_during]
  constructor
  · refine Ends.after ?_
    simp only [ends_bind, ends_during]
    refine hw.around_planned (fun _ => ?_) fun _ _ => ((AtMostDeletes.refl r hw₁).retires hr).of_loaded
    simp only [ends_bind, ends_get, ends_pure, hr, ends_attempt]
    refine (retires_transition hw₁ hr hout).imp ?_ ?_
    · intro _ w' h
      exact h.of_loaded.carried _ _
    · intro f w' h
      exact h.of_loaded.carried _ _
  · intro hnot
    have honly : OnlyLoads w { w with plan := planAfter w.plan .storeGet } :=
      ⟨fun _ hsite => if_neg hsite, rfl, rfl⟩
    refine hw.around_planned (fun _ => ?_) fun cause hfail => ⟨⟨cause, hfail⟩, honly⟩
    simp only [ends_bind, ends_get, ends_pure, hr, ends_attempt]
    refine (idle_of_not_admits hnot).imp ?_ fun _ _ h => h.elim
    rintro next w' ⟨rfl, hplan, hs, hp⟩
    exact ⟨rfl, fun site hsite => (congrFun hplan site).trans (honly.plan site hsite), hs, hp⟩

end scope

/-- A marked team out of scope is torn down as far as the platform lets it be, and one that was never
synced is not touched. -/
theorem unselected_team_is_retired :
    let g : Engine .team := ⟨⟨[.equals "team" "a"]⟩, .zero, .zero⟩
    let w := Sample.undeleted
    let v : World .team := { World.empty ["e-1"] with store := Store.empty.insert Sample.team }
    Retires Sample.key (Store.empty.stamped Sample.marked.placed) w
        (after (g.reconcile Sample.key .zero) w) ∧
      Ends (g.reconcile Sample.key .zero) v (fun next w' => next = .onChange ∧ OnlyLoads v w')
        fun _ w' => (∃ cause, (v.plan .storeGet).headD .pass = .fail cause) ∧ OnlyLoads v w' := by
  intro g w v
  have hw : w.Alone := Circumstances.AreOwn.under (Circumstances.once_areOwn (by trivial)) _
  have hv : v.Alone := fun _ _ h => by cases h
  have hr : w.store.get? Sample.key = some (Store.empty.stamped Sample.marked.placed) := rfl
  have hr' : v.store.get? Sample.key = some (Store.empty.stamped Sample.team.placed) := rfl
  exact ⟨(out_of_scope_pass g .zero hw hr (by decide +kernel) (by decide +kernel)).1,
    (out_of_scope_pass g .zero hv hr' (by decide +kernel) (by decide +kernel)).2
      (by decide +kernel)⟩

end ResourceSync
