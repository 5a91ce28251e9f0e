import ResourceSync.Proofs.History

/-! The finalizer outlives the entity: it is released from a marked object only, by a pass that
succeeds and leaves no entity under the recorded identifier. -/
namespace ResourceSync

variable {k : Kind}

open World

/-- The object under a key is there, with the finalizer of its kind on it. -/
def World.Guards (w : World k) (place : ObjectKey) : Prop :=
  ∃ r, w.store.get? place = some r ∧ r.hasFinalizer k.finalizer = true

section guards
variable {g : Engine k} {w w' : World k} {key place : ObjectKey} {r r' : Resource k} {ok : Bool}

theorem World.Guards.of_eq (h : w.Guards place) (ho : w'.store.get? = w.store.get?) :
    w'.Guards place := by
  obtain ⟨r, hr, hfin⟩ := h
  exact ⟨r, ho ▸ hr, hfin⟩

/-- A write to an object keeps the finalizer wherever it stands, if that object keeps it. -/
theorem World.Guards.put (h : w.Guards place) (hr : w.store.get? key = some r)
    (ho : w'.store.get? = Function.update w.store.get? key (some r'))
    (hfin : r.hasFinalizer k.finalizer = true → r'.hasFinalizer k.finalizer = true) :
    w'.Guards place := by
  obtain ⟨r₀, hr₀, hfin₀⟩ := h
  by_cases heq : place = key
  · subst heq
    obtain rfl := Option.some.inj (hr.symm.trans hr₀)
    exact ⟨r', by rw [ho, Function.update_self], hfin hfin₀⟩
  · exact ⟨r₀, by rw [ho, Function.update_of_ne heq, hr₀], hfin₀⟩

/-- A pass leaves the finalizer of an object in place, or it succeeds on just that object, which is
marked, and its entity is gone. -/
theorem Effect.guards_or_gone (h : Effect g key w w' ok) (hs : w.store.Placed)
    (hr : w.store.get? place = some r) (hfin : r.hasFinalizer k.finalizer = true) :
    w'.Guards place ∨ place = key ∧ ok = true ∧ r.metadata.isDeleting = true ∧
      ∀ id, r.remoteId = some id → w'.platform.entity? id = none := by
  have hguards : w.Guards place := ⟨r, hr, hfin⟩
  -- of all effects only the release takes a finalizer off
  cases h with
  | idle ho _ | undone _ _ ho _ | leaked _ _ _ ho _ | tornDown _ _ ho _ =>
    exact Or.inl (hguards.of_eq ho)
  | cut hr₁ _ hrec hsame =>
    refine Or.inl (hguards.put hr₁ hrec.objects ?_)
    intro hfin₁
    rw [Resource.hasFinalizer_eq_of_finalizers hsame, hfin₁]
  | created hr₁ _ hrec hensured =>
    exact Or.inl (hguards.put hr₁ hrec.objects fun _ => Resource.hasFinalizer_of_ensured hensured)
  | forgotten hr₁ _ _ _ _ _ hsame ho _ =>
    refine Or.inl (hguards.put hr₁ ho ?_)
    intro hfin₁
    rw [Resource.hasFinalizer_eq_of_finalizers hsame, hfin₁]
  | updated hr₁ _ _ _ _ ho _ =>
    rcases ho with ho | ⟨r', -, -, hsame, ho⟩
    · exact Or.inl (hguards.of_eq ho)
    · refine Or.inl (hguards.put hr₁ ho ?_)
      intro hfin₁
      rw [Resource.hasFinalizer_eq_of_finalizers hsame, hfin₁]
  | @released r₁ stored hr₁ due _ _ ho he =>
    rw [hs key r₁ hr₁] at ho
    by_cases heq : place = key
    · subst heq
      obtain rfl := Option.some.inj (hr.symm.trans hr₁)
      refine Or.inr ⟨rfl, rfl, (Engine.lifecycle_eq_pendingDeletion_iff.1 due).1, ?_⟩
      intro id hid
      rw [he id, if_pos hid]
    · exact Or.inl ⟨r, by rw [ho, Function.update_of_ne heq, hr], hfin⟩

/-- Where the finalizer is no longer on an object after a pass, the object was marked for deletion,
the pass was on it and succeeded, and the platform holds no entity under the identifier that it
recorded. A pass that fails, and any pass while the object is not marked, leaves it in place. -/
theorem finalizer_outlives_entity (g : Engine k) (key : ObjectKey) (elapsed : Duration)
    (hw : w.Undisturbed) (hs : w.store.Placed) (hr : w.store.get? place = some r)
    (hfin : r.hasFinalizer k.finalizer = true) :
    let w' := World.after (g.reconcile key elapsed) w
    (¬ w'.Guards place → place = key ∧ r.metadata.isDeleting = true ∧
      (∃ next, g.reconcile key elapsed w = .ok next w') ∧
      ∀ id, r.remoteId = some id → w'.platform.entity? id = none) ∧
    ((∃ f, g.reconcile key elapsed w = .error f w') → w'.Guards place) ∧
    (r.metadata.isDeleting = false → w'.Guards place) := by
  intro w'
  have hends := reconcile_effect g key elapsed hw hs.writesBack
  cases hx : g.reconcile key elapsed w with
  | ok next w₁ =>
    obtain rfl : w' = w₁ := World.after_of_ok hx
    have hcases := (hends.of_ok hx).guards_or_gone hs hr hfin
    refine ⟨?_, ?_, ?_⟩
    · intro hreleased
      obtain ⟨hkey, -, hdeleting, hgone⟩ := hcases.resolve_left hreleased
      exact ⟨hkey, hdeleting, ⟨next, rfl⟩, hgone⟩
    · rintro ⟨f, hf⟩
      cases hf
    · intro halive
      refine hcases.resolve_right ?_
      rintro ⟨-, -, hdeleting, -⟩
      simp [halive] at hdeleting
  | error f w₁ =>
    obtain rfl : w' = w₁ := World.after_of_error hx
    have hguards : w'.Guards place := by
      refine ((hends.of_error hx).guards_or_gone hs hr hfin).resolve_right ?_
      rintro ⟨-, hok, -⟩
      cases hok
    exact ⟨fun hreleased => absurd hguards hreleased, fun _ => hguards, fun _ => hguards⟩

end guards

/-- A team that is marked for deletion, with an entity and with a finalizer of someone else. -/
def Sample.marked : Resource .team :=
  { Sample.team with
    metadata :=
      { Sample.team.metadata with
        deletionTimestamp := some .earliest
        finalizers := some ["other.io/hold", Kind.team.finalizer] }
    status := some (⟨some "e-1"⟩ : IdStatus) }

/-- A world with that team, in which the first deletion of an entity fails. -/
def Sample.undeleted : World .team :=
  let w : World .team :=
    { World.empty [] with
      store := Store.empty.insert Sample.marked
      platform :=
        { Platform.ofIds (k := .team) [] with
          entities := SortedMap.empty.insert "e-1"
            (Platform.newborn "e-1" (⟨"alpha", "", [], none⟩ : TeamBody)) } }
  w.under (.once .remoteDelete (.fail (.remote (.api "DELETE" "/fake/e-1" 503 "down"))))

/-- While the entity cannot be deleted the finalizer stays, and once it can be it goes with it. -/
theorem finalizer_waits_for_entity :
    let w := Sample.undeleted
    let w₁ := World.after (Sample.engine.reconcile Sample.key .zero) w
    let w₂ := World.after (Sample.engine.reconcile Sample.key .zero) w₁
    w₁.Guards Sample.key ∧ ¬ w₂.Guards Sample.key ∧ w₂.platform.entity? "e-1" = none := by
  intro w w₁ w₂
  let r : Resource .team := Store.empty.stamped Sample.marked.placed
  have hs : w.store.Placed := Store.placed_empty.insert Sample.marked
  have hw : w.Undisturbed := Circumstances.ArePlain.under (Circumstances.once_arePlain (by rfl)) _
  obtain ⟨hrest, hs₁⟩ := World.after_reconcile Store.placed_stable Sample.engine Sample.key .zero
    hw.alone hs
  have hr : w.store.get? Sample.key = some r := rfl
  have hr₁ : w₁.store.get? Sample.key = some r := rfl
  have hfirst := finalizer_outlives_entity Sample.engine Sample.key .zero hw hs hr rfl
  have hsecond := finalizer_outlives_entity Sample.engine Sample.key .zero
    (hw.continues hrest) hs₁ hr₁ rfl
  have hreleased : ¬ w₂.Guards Sample.key := by
    have hall : (w₂.store.get? Sample.key).all
        (fun r => !r.hasFinalizer Kind.team.finalizer) = true := rfl
    rintro ⟨r, hr₂, hfin⟩
    simp [hr₂, hfin] at hall
  exact ⟨hfirst.2.1 ⟨_, rfl⟩, hreleased, (hsecond.1 hreleased).2.2.2 "e-1" rfl⟩

end ResourceSync
