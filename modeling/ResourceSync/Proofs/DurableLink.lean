import ResourceSync.Proofs.History
import ResourceSync.Proofs.Recording

/-! The recorded identifier is the one durable link between an object and its entity: while the
object lives no entity is made twice, and none is lost. -/
namespace ResourceSync

variable {k : Kind}

open World

namespace Chronicle
variable {g : Engine k} {c : Chronicle k}

/-- Edits never touch the status. -/
def KeepsStatus (r r' : Resource k) : Prop := r'.status = r.status

/-- Every entity that was created for a live object is the recorded one, or its compensating delete
failed. -/
def Linked (c : Chronicle k) : Prop :=
  ∀ key r, c.world.store.get? key = some r → ∀ b ∈ c.births, b.owner = key →
    b.life = c.lives key → c.world.Holds b.id → r.remoteId = some b.id ∨ b.id ∈ c.leaks

/-- What is recorded agrees with the record of creations, at every moment of a run. -/
structure Coherent (c : Chronicle k) : Prop where
  versioned : c.world.store.Versioned
  wellKeyed : c.world.platform.WellKeyed
  timely : ∀ b ∈ c.births, b.life ≤ c.lives b.owner
  single : ∀ b₁ ∈ c.births, ∀ b₂ ∈ c.births, b₁.id = b₂.id → b₁ = b₂
  recorded : ∀ key id, c.world.idAt key = some (some id) → ⟨key, c.lives key, id⟩ ∈ c.births
  linked : ∀ key o, c.world.idAt key = some o → ∀ b ∈ c.births, b.owner = key →
    b.life = c.lives key → c.world.Holds b.id → o = some b.id ∨ b.id ∈ c.leaks

theorem Begins.coherent (h : c.Begins) : c.Coherent where
  versioned := ⟨by simp [h.objects], by simp [h.objects]⟩
  wellKeyed := h.wellKeyed
  timely := by simp [h.births]
  single := by simp [h.births]
  recorded := by simp [idAt, h.objects]
  linked := by simp [idAt, h.objects]

theorem Coherent.isLinked (h : c.Coherent) : c.Linked := fun key _ hr =>
  h.linked key _ (idAt_of_get? hr)

theorem Coherent.distinct (h : c.Coherent) : c.world.store.Distinct := by
  intro key₁ key₂ r₁ r₂ id h₁ h₂ hid₁ hid₂
  have hb₁ := h.recorded key₁ id (by rw [idAt_of_get? h₁, hid₁])
  have hb₂ := h.recorded key₂ id (by rw [idAt_of_get? h₂, hid₂])
  exact congrArg Birth.owner (h.single _ hb₁ _ hb₂ rfl)

/-- Objects may vanish or stay as they are, and entities may vanish. -/
theorem Coherent.kept {c' : Chronicle k} (h : c.Coherent)
    (hv : c'.world.store.Versioned) (hp : c'.world.platform.WellKeyed)
    (ho : ∀ key, c'.world.idAt key = c.world.idAt key ∨ c'.world.idAt key = none)
    (he : ∀ id, c'.world.Holds id → c.world.Holds id)
    (hlives : c'.lives = c.lives) (hbirths : c'.births = c.births)
    (hleaks : ∀ id, id ∈ c.leaks → id ∈ c'.leaks) : c'.Coherent where
  versioned := hv
  wellKeyed := hp
  timely := by
    rw [hlives, hbirths]
    exact h.timely
  single := by
    rw [hbirths]
    exact h.single
  recorded key id hid := by
    rw [hlives, hbirths]
    rcases ho key with heq | hnone
    · exact h.recorded key id (heq ▸ hid)
    · simp [hnone] at hid
  linked key o hid b hb hkey hlife hheld := by
    rw [hbirths] at hb
    rw [hlives] at hlife
    rcases ho key with heq | hnone
    · exact (h.linked key o (heq ▸ hid) b hb hkey hlife (he _ hheld)).imp_right (hleaks _)
    · simp [hnone] at hid

section pass
variable {key : ObjectKey} {elapsed : Duration} {circumstances : Circumstances k}

theorem Coherent.idChange (h : c.Coherent) (g : Engine k) (key : ObjectKey)
    (elapsed : Duration) (hc : circumstances.ArePlain) (hf : c.Fresh) :
    IdChange g (c.world.under circumstances) (c.world.passed g key elapsed circumstances) key := by
  obtain ⟨_, -, heffect⟩ | ⟨_, -, heffect⟩ :=
    passed_effect g key elapsed h.versioned hc
  · exact heffect.idChange hf.nonempty h.wellKeyed
  · exact heffect.idChange hf.nonempty h.wellKeyed

theorem born (h : (c.world.passed g key elapsed circumstances).Holds c.world.platform.nextId) :
    ⟨key, c.lives key, c.world.platform.nextId⟩ ∈
      (c.after g (.pass key elapsed circumstances)).births := by
  simp only [after, if_pos (Option.isSome_iff_ne_none.2 h), List.mem_cons_self]

theorem births_of_mem {b : Birth} (h : b ∈ c.births) :
    b ∈ (c.after g (.pass key elapsed circumstances)).births := by
  simp only [after]
  split
  · exact List.mem_cons_of_mem _ h
  · exact h

theorem mem_births {b : Birth} (h : b ∈ (c.after g (.pass key elapsed circumstances)).births) :
    b ∈ c.births ∨ b = ⟨key, c.lives key, c.world.platform.nextId⟩ ∧
      (c.world.passed g key elapsed circumstances).Holds c.world.platform.nextId := by
  simp only [after] at h
  split at h
  · next hheld =>
    rcases List.mem_cons.1 h with rfl | hb
    · exact Or.inr ⟨rfl, Option.isSome_iff_ne_none.1 hheld⟩
    · exact Or.inl hb
  · exact Or.inl h

/-- Whatever the platform holds after a pass and did not hold before is on record. -/
theorem born_of_held (h : c.Coherent) (hc : circumstances.ArePlain) (hf : c.Fresh) {id : String}
    (hheld : (c.world.passed g key elapsed circumstances).Holds id) (hnew : ¬ c.world.Holds id) :
    ⟨key, c.lives key, id⟩ ∈ (c.after g (.pass key elapsed circumstances)).births := by
  have hid : id = c.world.platform.nextId := by
    cases h.idChange g key elapsed hc hf with
    | kept _ he => exact absurd (he id hheld) hnew
    | leaked _ _ he => exact (he id hheld).resolve_left hnew
    | recorded _ _ he => exact ((he id).1 hheld).resolve_left hnew
    | forgotten _ _ _ he => exact absurd (he id hheld) hnew
  subst hid
  exact born hheld

theorem Coherent.recorded_pass (h : c.Coherent) (hc : circumstances.ArePlain) (hf : c.Fresh)
    {key' : ObjectKey} {id : String}
    (hid : (c.world.passed g key elapsed circumstances).idAt key' = some (some id)) :
    ⟨key', c.lives key', id⟩ ∈ (c.after g (.pass key elapsed circumstances)).births := by
  cases h.idChange g key elapsed hc hf with
  | kept ho _ =>
    rcases ho key' with heq | hnone
    · exact births_of_mem (h.recorded key' id (heq ▸ hid))
    · simp [hnone] at hid
  | leaked _ ho _ => exact births_of_mem (h.recorded key' id (ho ▸ hid))
  | recorded _ ho he =>
    rw [ho, Function.update_apply] at hid
    split at hid
    · next heq =>
      subst heq
      obtain rfl := Option.some.inj (Option.some.inj hid)
      exact born ((he _).2 (Or.inr rfl))
    · exact births_of_mem (h.recorded key' id hid)
  | forgotten _ _ ho _ =>
    rw [ho, Function.update_apply] at hid
    split at hid
    · simp at hid
    · exact births_of_mem (h.recorded key' id hid)

theorem Coherent.linked_pass (h : c.Coherent) (hc : circumstances.ArePlain) (hf : c.Fresh)
    {o : Option String} {b : Birth}
    (hid : (c.world.passed g key elapsed circumstances).idAt b.owner = some o)
    (hb : b ∈ (c.after g (.pass key elapsed circumstances)).births)
    (hlife : b.life = c.lives b.owner)
    (hheld : (c.world.passed g key elapsed circumstances).Holds b.id) :
    o = some b.id ∨ b.id ∈ (c.after g (.pass key elapsed circumstances)).leaks := by
  -- of an older entity nothing but its recording can have changed
  have hold {o'} (hb : b ∈ c.births) (ho : c.world.idAt b.owner = some o')
      (he : c.world.Holds b.id) : o' = some b.id ∨
        b.id ∈ (c.after g (.pass key elapsed circumstances)).leaks :=
    (h.linked b.owner o' ho b hb rfl hlife he).imp_right (List.mem_append_right _)
  cases h.idChange g key elapsed hc hf with
  | kept ho he =>
    rcases mem_births hb with hb | ⟨rfl, -⟩
    · rcases ho b.owner with heq | hnone
      · exact hold hb (heq ▸ hid) (he _ hheld)
      · simp [hnone] at hid
    · exact absurd hf.unheld (he _ hheld)
  | leaked leak ho he =>
    rcases mem_births hb with hb | ⟨rfl, -⟩
    · exact hold hb (ho ▸ hid) ((he _ hheld).resolve_right (hf.unborn b hb))
    · exact Or.inr (List.mem_append_left _ (Option.mem_toList.2 leak))
  | recorded was ho he =>
    rw [ho, Function.update_apply] at hid
    rcases mem_births hb with hb | ⟨rfl, -⟩
    · have hheld' := ((he _).1 hheld).resolve_right (hf.unborn b hb)
      split at hid
      · next heq =>
        rw [heq] at hold
        exact (hold hb was hheld').elim (by simp) Or.inr
      · exact hold hb hid hheld'
    · rw [if_pos rfl] at hid
      exact Or.inl (Option.some.inj hid).symm
  | forgotten was gone ho he =>
    rw [ho, Function.update_apply] at hid
    rcases mem_births hb with hb | ⟨rfl, -⟩
    · split at hid
      · next heq =>
        rw [heq] at hold
        refine (hold hb was (he _ hheld)).elim ?_ Or.inr
        intro hsome
        exact absurd (Option.some.inj hsome ▸ he _ hheld) gone
      · exact hold hb hid (he _ hheld)
    · exact absurd hf.unheld (he _ hheld)

theorem Coherent.pass (h : c.Coherent) (hc : circumstances.ArePlain) (hf : c.Fresh) :
    (c.after g (.pass key elapsed circumstances)).Coherent := by
  have hd : c.Allows KeepsStatus (.pass key elapsed circumstances) := ⟨hc, hf⟩
  obtain ⟨hv, hp⟩ := versioned_after (g := g) hd.isOwn h.versioned h.wellKeyed
  refine ⟨hv, hp, ?_, ?_, ?_,
    ?_⟩
  · intro b hb
    rcases mem_births hb with hb | ⟨rfl, -⟩
    · exact h.timely b hb
    · exact Nat.le_refl _
  · intro b₁ hb₁ b₂ hb₂ heq
    rcases mem_births hb₁ with hb₁ | ⟨rfl, -⟩ <;> rcases mem_births hb₂ with hb₂ | ⟨rfl, -⟩
    · exact h.single b₁ hb₁ b₂ hb₂ heq
    · exact absurd heq (hf.unborn b₁ hb₁)
    · exact absurd heq.symm (hf.unborn b₂ hb₂)
    · rfl
  · intro key' id hid
    exact h.recorded_pass hc hf hid
  · intro key' o hid b hb hkey hlife hheld
    subst hkey
    exact h.linked_pass hc hf hid hb hlife hheld

end pass

/-- One step of a run: what is recorded stays in agreement with the record of creations. -/
theorem Coherent.after {d : Deed k} (h : c.Coherent) (hd : c.Allows KeepsStatus d) :
    (c.after g d).Coherent := by
  obtain ⟨hv, hp⟩ := versioned_after (g := g) hd.isOwn h.versioned h.wellKeyed
  cases d with
  | insert r =>
    have ho : (c.after g (.insert r)).world.idAt =
        Function.update c.world.idAt r.placed.key (some none) := by
      have hnone : (c.world.store.stamped r.placed).remoteId = none := by
        simp [Resource.remoteId, Store.stamped, Resource.placed, hd.1]
      rw [idAt_update (w := c.world) Store.get?_insert, Option.map_some, hnone]
    have hlives (key : ObjectKey) : c.lives key ≤ (c.after g (.insert r)).lives key := by
      simp only [Chronicle.after, Function.update_apply]
      split
      · next heq => exact heq ▸ Nat.le_succ _
      · exact Nat.le_refl _
    refine ⟨hv, hp, fun b hb => Nat.le_trans (h.timely b hb) (hlives _), h.single, ?_,
      ?_⟩
    · intro key id hid
      rw [ho, Function.update_apply] at hid
      split at hid
      · simp at hid
      · next hne =>
        simp only [Chronicle.after, Function.update_of_ne hne]
        exact h.recorded key id hid
    · intro key o hid b hb hkey hlife hheld
      rw [ho, Function.update_apply] at hid
      split at hid
      · next heq =>
        -- nothing can have been created yet for an object that was just put there
        have hle := h.timely b hb
        rw [hkey, heq] at hle
        simp only [Chronicle.after, heq, Function.update_self] at hlife
        omega
      · next hne =>
        simp only [Chronicle.after, Function.update_of_ne hne] at hlife
        exact h.linked key o hid b hb hkey hlife hheld
  | edit key r' =>
    obtain ⟨r, hr, hstatus⟩ := hd
    refine h.kept hv hp (fun key' => Or.inl ?_) (fun _ hid => hid) rfl rfl fun _ hid => hid
    have hid : (c.world.store.stamped r').remoteId = r.remoteId :=
      Resource.remoteId_eq_of_status hstatus
    rw [idAt_update (w := c.world) Store.get?_put, Option.map_some, hid, ← idAt_of_get? hr,
      Function.update_eq_self]
  | delete key now =>
    refine h.kept hv hp ?_ (fun _ hid => hid) rfl rfl fun _ hid => hid
    intro key'
    rcases c.world.store.delete_cases key now with ho | ⟨r, hr, ⟨-, ho⟩ | ⟨-, ho⟩⟩
    · exact Or.inl (congrFun (idAt_eq_of_get? ho) key')
    · rw [idAt_update (w := c.world) ho, Function.update_apply]
      split
      · exact Or.inr rfl
      · exact Or.inl rfl
    · left
      rw [idAt_update (w := c.world) ho, Option.map_some]
      change Function.update c.world.idAt key (some r.remoteId) key' = _
      rw [← idAt_of_get? hr, Function.update_eq_self]
  | removeEntity id =>
    exact h.kept hv hp (fun _ => Or.inl rfl)
      (fun _ => holds_of_update_none Platform.entity?_remove) rfl rfl fun _ hid => hid
  | editEntity id b =>
    exact h.kept hv hp (fun _ => Or.inl rfl)
      (fun _ => holds_of_update_map Platform.entity?_setBody) rfl rfl fun _ hid => hid
  | pass key elapsed circumstances => exact h.pass hd.1 hd.2

/-- In every reachable state each entity that was created for a live object is the one it records
or one whose compensating delete failed, and no two objects record the same; and no pass changes a
recorded identifier except from none to that of the entity it creates, or from that of a lost entity
to none. -/
theorem recorded_id_is_the_link {ds : List (Deed k)} (hc : c.Begins)
    (hds : Along (Chronicle.after g) (Allows KeepsStatus) c ds) :
    let c' := ds.foldl (Chronicle.after g) c
    c'.Linked ∧ c'.world.store.Distinct ∧ ∀ key elapsed circumstances,
      c'.Allows KeepsStatus (.pass key elapsed circumstances) →
      IdStep c'.world (c'.world.passed g key elapsed circumstances) := by
  intro c'
  have hcoherent : c'.Coherent :=
    hds.invariant (fun _ _ hd h => h.after hd) hc.coherent
  refine ⟨hcoherent.isLinked, hcoherent.distinct, ?_⟩
  intro key elapsed circumstances hd
  exact (hcoherent.idChange g key elapsed hd.1 hd.2).idStep (not_not.2 hd.2.unheld)

/-- The platform loses the entity of an object, which is noticed and made up for. -/
theorem link_survives_loss :
    let ds : List (Deed .team) := [.insert Sample.team, .pass Sample.key .zero .calm,
      .removeEntity "e-1", .pass Sample.key .zero .calm, .pass Sample.key .zero .calm]
    let c' := ds.foldl (Chronicle.after Sample.engine) Sample.start
    c'.world.idAt Sample.key = some (some "e-2") ∧ c'.Linked ∧ c'.world.store.Distinct := by
  intro ds c'
  have hds : Along (Chronicle.after Sample.engine) (Allows KeepsStatus) Sample.start ds :=
    ⟨⟨rfl, rfl⟩, ⟨Circumstances.calm_arePlain, by decide, by decide, by decide⟩, trivial,
      ⟨Circumstances.calm_arePlain, by decide, by decide, by decide⟩,
      ⟨Circumstances.calm_arePlain, by decide, by decide, by decide⟩, trivial⟩
  have hlink := recorded_id_is_the_link Sample.start_begins hds
  exact ⟨by decide, hlink.1, hlink.2.1⟩

end Chronicle

end ResourceSync
