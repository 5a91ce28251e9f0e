import ResourceSync.Proofs.Effect

/-! How a pass may change which identifiers are recorded and which entities are held. -/
namespace ResourceSync

variable {k : Kind}

/-- No two objects record the same identifier. -/
def Store.Distinct (s : Store k) : Prop :=
  ∀ key₁ key₂ r₁ r₂ id, s.get? key₁ = some r₁ → s.get? key₂ = some r₂ →
    r₁.remoteId = some id → r₂.remoteId = some id → key₁ = key₂

namespace World
variable {w w' : World k} {key : ObjectKey} {ok : Bool}

/-- The identifier that the object under a key records, where there is an object. -/
def idAt (w : World k) (key : ObjectKey) : Option (Option String) :=
  (w.store.get? key).map Resource.remoteId

def Holds (w : World k) (id : String) : Prop := w.platform.entity? id ≠ none

instance (w : World k) (id : String) : Decidable (w.Holds id) :=
  decidable_of_iff _ Option.isSome_iff_ne_none

/-- How a pass on the object under a key may change what is recorded and what is held. -/
inductive IdChange (g : Engine k) (w w' : World k) (key : ObjectKey) : Prop where
  | kept (objects : ∀ key', w'.idAt key' = w.idAt key' ∨ w'.idAt key' = none)
      (held : ∀ id, w'.Holds id → w.Holds id)
  | leaked (leak : g.leak? key w = some w.platform.nextId) (objects : w'.idAt = w.idAt)
      (held : ∀ id, w'.Holds id → w.Holds id ∨ id = w.platform.nextId)
  | recorded (was : w.idAt key = some none)
      (objects : w'.idAt = Function.update w.idAt key (some (some w.platform.nextId)))
      (held : ∀ id, w'.Holds id ↔ w.Holds id ∨ id = w.platform.nextId)
  | forgotten {id : String} (was : w.idAt key = some (some id)) (gone : ¬ w.Holds id)
      (objects : w'.idAt = Function.update w.idAt key (some none))
      (held : ∀ id, w'.Holds id → w.Holds id)

theorem idAt_eq_of_get? (h : w'.store.get? = w.store.get?) : w'.idAt = w.idAt := by
  funext key
  simp only [idAt, h]

theorem idAt_update {o : Option (Resource k)}
    (h : w'.store.get? = Function.update w.store.get? key o) :
    w'.idAt = Function.update w.idAt key (o.map Resource.remoteId) := by
  funext key'
  simp only [idAt, h, Function.update_apply]
  split <;> rfl

theorem idAt_of_get? {r : Resource k} (h : w.store.get? key = some r) :
    w.idAt key = some r.remoteId := by
  simp only [idAt, h, Option.map_some]

theorem holds_of_eq {id : String} (h : w'.platform.entity? = w.platform.entity?)
    (hid : w'.Holds id) : w.Holds id := by
  simpa only [Holds, h] using hid

theorem holds_update {id id' : String} {e : Entity k.Body}
    (h : w'.platform.entity? = Function.update w.platform.entity? id (some e)) :
    w'.Holds id' ↔ w.Holds id' ∨ id' = id := by
  simp only [Holds, h, Function.update_apply]
  split <;> simp_all

theorem holds_of_update_none {id id' : String}
    (h : w'.platform.entity? = Function.update w.platform.entity? id none) (hid : w'.Holds id') :
    w.Holds id' := by
  simp only [Holds, h, Function.update_apply] at hid ⊢
  split at hid
  · exact absurd rfl hid
  · exact hid

theorem holds_of_update_map {id id' : String} {f : Entity k.Body → Entity k.Body}
    (h : w'.platform.entity? =
      Function.update w.platform.entity? id ((w.platform.entity? id).map f))
    (hid : w'.Holds id') : w.Holds id' := by
  simp only [Holds, h, Function.update_apply] at hid ⊢
  split at hid
  · next heq =>
    rw [heq]
    exact fun hnone => hid (by rw [hnone, Option.map_none])
  · exact hid

/-- An update leaves held what was held. -/
theorem holds_of_update_held {id id' : String} {e e' : Entity k.Body}
    (h : w'.platform.entity? = Function.update w.platform.entity? id (some e'))
    (he : w.platform.entity? id = some e) (hid : w'.Holds id') : w.Holds id' := by
  rcases (holds_update h).1 hid with hid | rfl
  · exact hid
  · exact Option.ne_none_iff_exists'.2 ⟨e, he⟩

/-- A deletion leaves held what was held, but not the recorded entity. -/
theorem holds_of_dropped {r : Resource k} {id : String} (h : ∀ id, w'.platform.entity? id =
      if r.remoteId = some id then none else w.platform.entity? id) (hid : w'.Holds id) :
    w.Holds id ∧ r.remoteId ≠ some id := by
  simp only [Holds, h id] at hid ⊢
  split at hid
  · exact absurd rfl hid
  · next hne => exact ⟨hid, hne⟩

/-- What is recorded for an object goes from nothing to the identifier of a new entity, from an
identifier that the platform has lost to nothing, or stays. -/
def IdStep (w w' : World k) : Prop :=
  ∀ key r', w'.store.get? key = some r' → ∃ r, w.store.get? key = some r ∧
    (r'.remoteId = r.remoteId ∨
      (∃ id, r.remoteId = none ∧ r'.remoteId = some id ∧ ¬ w.Holds id ∧ w'.Holds id) ∨
      ∃ id, r.remoteId = some id ∧ r'.remoteId = none ∧ ¬ w.Holds id ∧ ¬ w'.Holds id)

theorem IdChange.idStep {g : Engine k} {key : ObjectKey} {w w' : World k}
    (h : IdChange g w w' key) (hnew : ¬ w.Holds w.platform.nextId) : IdStep w w' := by
  intro key' r' hr'
  have hid' := idAt_of_get? hr'
  have hfrom {o} (ho : w.idAt key' = some o) : ∃ r, w.store.get? key' = some r ∧ r.remoteId = o :=
    Option.map_eq_some_iff.1 ho
  have hstay (ho : w'.idAt key' = w.idAt key') : ∃ r, w.store.get? key' = some r ∧
      r'.remoteId = r.remoteId := by
    obtain ⟨r, hr, hid⟩ := hfrom (ho ▸ hid')
    exact ⟨r, hr, hid.symm⟩
  cases h with
  | kept ho _ =>
    rcases ho key' with heq | hnone
    · obtain ⟨r, hr, hid⟩ := hstay heq
      exact ⟨r, hr, Or.inl hid⟩
    · simp [hnone] at hid'
  | leaked _ ho _ =>
    obtain ⟨r, hr, hid⟩ := hstay (congrFun ho key')
    exact ⟨r, hr, Or.inl hid⟩
  | recorded was ho he =>
    by_cases heq : key' = key
    · subst heq
      obtain ⟨r, hr, hid⟩ := hfrom was
      rw [ho, Function.update_self] at hid'
      exact ⟨r, hr, Or.inr (Or.inl ⟨_, hid, (Option.some.inj hid').symm, hnew,
        (he _).2 (Or.inr rfl)⟩)⟩
    · obtain ⟨r, hr, hid⟩ := hstay (by rw [ho, Function.update_of_ne heq])
      exact ⟨r, hr, Or.inl hid⟩
  | @forgotten id was gone ho he =>
    by_cases heq : key' = key
    · subst heq
      obtain ⟨r, hr, hid⟩ := hfrom was
      rw [ho, Function.update_self] at hid'
      exact ⟨r, hr, Or.inr (Or.inr ⟨id, hid, (Option.some.inj hid').symm, gone,
        fun hheld => gone (he _ hheld)⟩)⟩
    · obtain ⟨r, hr, hid⟩ := hstay (by rw [ho, Function.update_of_ne heq])
      exact ⟨r, hr, Or.inl hid⟩

theorem IdChange.eq_nextId {g : Engine k} {key key' : ObjectKey} {w w' : World k}
    {id : String} (h : IdChange g w w' key) (was : w.idAt key' = some none)
    (now : w'.idAt key' = some (some id)) : id = w.platform.nextId ∧ w'.Holds id := by
  cases h with
  | kept ho _ => rcases ho key' with heq | hnone <;> simp_all
  | leaked _ ho _ => simp_all
  | recorded _ ho he =>
    rw [ho, Function.update_apply] at now
    split at now
    · obtain rfl := Option.some.inj (Option.some.inj now)
      exact ⟨rfl, (he _).2 (Or.inr rfl)⟩
    · simp_all
  | forgotten _ _ ho _ =>
    rw [ho, Function.update_apply] at now
    split at now <;> simp_all

theorem IdChange.distinct {g : Engine k} (h : IdChange g w w' key) (hd : w.store.Distinct)
    (hnew : ∀ key r, w.store.get? key = some r → r.remoteId ≠ some w.platform.nextId) :
    w'.store.Distinct := by
  intro key₁ key₂ r₁ r₂ id hr₁ hr₂ hid₁ hid₂
  -- an identifier was recorded before, or it is the new one
  have hold {key' r'} (hr' : w'.store.get? key' = some r') (hid' : r'.remoteId = some id) :
      (∃ r, w.store.get? key' = some r ∧ r.remoteId = some id) ∨
        key' = key ∧ id = w.platform.nextId := by
    have hat := idAt_of_get? hr'
    rw [hid'] at hat
    have hwas (ho : w.idAt key' = some (some id)) :
        ∃ r, w.store.get? key' = some r ∧ r.remoteId = some id := Option.map_eq_some_iff.1 ho
    cases h with
    | kept ho _ =>
      rcases ho key' with heq | hnone
      · exact Or.inl (hwas (heq ▸ hat))
      · simp [hnone] at hat
    | leaked _ ho _ => exact Or.inl (hwas (ho ▸ hat))
    | recorded _ ho _ =>
      rw [ho, Function.update_apply] at hat
      split at hat
      · next heq => exact Or.inr ⟨heq, (Option.some.inj (Option.some.inj hat)).symm⟩
      · exact Or.inl (hwas hat)
    | forgotten _ _ ho _ =>
      rw [ho, Function.update_apply] at hat
      split at hat
      · simp at hat
      · exact Or.inl (hwas hat)
  rcases hold hr₁ hid₁ with ⟨r, hr, hid⟩ | ⟨rfl, hid⟩ <;>
    rcases hold hr₂ hid₂ with ⟨r', hr', hid'⟩ | ⟨rfl, hid'⟩
  · exact hd _ _ _ _ _ hr hr' hid hid'
  · exact absurd (hid' ▸ hid) (hnew _ _ hr)
  · exact absurd (hid ▸ hid') (hnew _ _ hr')
  · rfl

end World

open World

/-- Every effect of a pass is such a change. -/
theorem Effect.idChange {g : Engine k} {key : ObjectKey} {w w' : World k} {ok : Bool}
    (h : Effect g key w w' ok) (hid : w.platform.nextId ≠ "") (hp : w.platform.WellKeyed) :
    IdChange g w w' key := by
  have hrecorded {r r'} (hr : w.store.get? key = some r) (due : g.lifecycle r = .pendingCreation)
      (hrec : Recorded w w' key r r') : IdChange g w w' key := by
    obtain ⟨b, he⟩ := hrec.entities
    refine .recorded ?_ ?_ fun _ => holds_update he
    · rw [idAt_of_get? hr, (Engine.lifecycle_eq_pendingCreation_iff.1 due).1]
    · rw [idAt_update hrec.objects, Option.map_some, hrec.remoteId hid]
  cases h with
  | idle ho he =>
    exact .kept (fun key' => Or.inl (congrFun (idAt_eq_of_get? ho) key')) fun _ =>
      holds_of_eq he
  | undone _ _ ho he =>
    exact .kept (fun key' => Or.inl (congrFun (idAt_eq_of_get? ho) key')) fun _ =>
      holds_of_update_none he
  | leaked _ _ leak ho he => exact .leaked leak (idAt_eq_of_get? ho) fun id => (holds_update he).1
  | cut hr due hrec _ => exact hrecorded hr due hrec
  | created hr due hrec _ => exact hrecorded hr due hrec
  | @forgotten r r' id hr due hrid hgone _ hstatus _ ho he =>
    have was : w.idAt key = some (some id) := by rw [idAt_of_get? hr, hrid]
    refine .forgotten was (not_not.2 hgone) ?_
      fun _ => holds_of_eq he
    rw [idAt_update ho, Option.map_some, Resource.remoteId, hstatus, Option.bind_none]
  | @updated r id e e' _ hr due hrid hheld hsame ho he =>
    have hid' : e'.id = id := hsame.trans (hp id e hheld)
    have hkept (id') : w'.Holds id' → w.Holds id' := holds_of_update_held he hheld
    rcases ho with ho | ⟨r', -, hstatus, -, ho⟩
    · exact .kept (fun key' => Or.inl (congrFun (idAt_eq_of_get? ho) key')) hkept
    · refine .kept (fun key' => Or.inl ?_) hkept
      have hrid' : r'.remoteId = r.remoteId := by
        rw [hrid, ← hid']
        exact Resource.remoteId_of_observedStatus (hid' ▸ Resource.remoteId_ne_empty hrid) hstatus
      rw [idAt_update ho, Option.map_some, hrid', ← idAt_of_get? hr, Function.update_eq_self]
  | tornDown hr _ ho he =>
    exact .kept (fun key' => Or.inl (congrFun (idAt_eq_of_get? ho) key'))
      fun _ h => (holds_of_dropped he h).1
  | @released r stored hr _ _ hplace ho he =>
    refine .kept ?_ fun _ h => (holds_of_dropped he h).1
    intro key'
    rw [idAt_update ho, Function.update_apply]
    split
    · next heq =>
      cases hfin : w.store.refinalized stored
        (r.metadata.finalizerList.filter fun f => f ≠ k.finalizer) with
      | none => exact Or.inr rfl
      | some r' =>
        have hstatus := (Store.refinalized_eq_some hfin).2.1
        exact Or.inl (by rw [Option.map_some, Resource.remoteId_eq_of_status hstatus, heq,
          idAt_of_get? hplace])
    · exact Or.inl rfl

end ResourceSync
