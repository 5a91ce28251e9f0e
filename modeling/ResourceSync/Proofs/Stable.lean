import Std.Data.String.ToNat
import ResourceSync.Proofs.Calls
import ResourceSync.Proofs.Carried

/-! What every single call keeps, a whole pass keeps. -/
namespace ResourceSync

variable {k : Kind} {α : Type}

/-- A property of stores that no write of a pass breaks. -/
structure Store.Stable (S : Store k → Prop) : Prop where
  patchFinalizers : ∀ s key finalizers, S s → S (s.patchFinalizers key finalizers).2
  writeStatus : ∀ s r status, S s → S (s.writeStatus r status).2

/-- A property of platforms that no call of a pass breaks. -/
structure Platform.Stable (P : Platform k → Prop) : Prop where
  create : ∀ p b, P p → P (p.create b).2
  get : ∀ p id, P p → P (p.get id).2
  update : ∀ p id b, P p → P (p.update id b).2
  delete : ∀ p id, P p → P (p.delete id).2

namespace World
variable {S : Store k → Prop} {P : Platform k → Prop} {x : Run k α} {r : Resource k}

/-- While nobody else acts, the step keeps what holds of store and platform. -/
def Keeps (S : Store k → Prop) (P : Platform k → Prop) (x : Run k α) : Prop :=
  ∀ w, w.Alone → S w.store → P w.platform →
    Ends x w (fun _ w' => Continues w w' ∧ S w'.store ∧ P w'.platform)
      (fun _ w' => Continues w w' ∧ S w'.store ∧ P w'.platform)

theorem Keeps.continuing {w₀ w : World k} (hx : Keeps S P x) (hw : w₀.Alone)
    (hrest : Continues w₀ w) (hs : S w.store) (hp : P w.platform) :
    Ends x w (fun _ w' => Continues w₀ w' ∧ S w'.store ∧ P w'.platform)
      (fun _ w' => Continues w₀ w' ∧ S w'.store ∧ P w'.platform) :=
  (hx w (hw.continues hrest) hs hp).imp (fun _ _ h => ⟨hrest.trans h.1, h.2⟩)
    fun _ _ h => ⟨hrest.trans h.1, h.2⟩

/-- In a world where nobody else acts, what is kept is carried on. -/
theorem Keeps.carries {w₀ : World k} (hx : Keeps S P x) (hw : w₀.Alone) :
    Carries (fun w => Continues w₀ w ∧ S w.store ∧ P w.platform) x :=
  fun _ h => hx.continuing hw h.1 h.2.1 h.2.2

theorem keeps_measure {m : Metrics → Metrics} : Keeps S P (measure m : Run k Unit) :=
  fun w _ hs hp => ⟨.refl w, hs, hp⟩

theorem keeps_publish {severity : Severity} {reason : Reason} {message : String} :
    Keeps S P (publish severity reason message : Run k Unit) :=
  fun w _ hs hp => ⟨.refl w, hs, hp⟩

theorem Keeps.around {site : Site} (hx : Keeps S P x) : Keeps S P (around site x) :=
  fun _ hw hs hp => hw.around (fun _ hrest => hx.continuing hw hrest hs hp)
    fun _ _ hrest _ => ⟨hrest, hs, hp⟩

theorem keeps_onStore {step : Store k → Except StoreError α × Store k}
    (h : ∀ s, S s → S (step s).2) : Keeps S P (onStore step) := by
  intro w hw hs hp
  have hstep := h w.store hs
  rw [ends_onStore]
  split
  · next heq => exact ⟨.refl w, by simpa only [heq] using hstep, hp⟩
  · next heq => exact ⟨.refl w, by simpa only [heq] using hstep, hp⟩

theorem keeps_onPlatform {step : Platform k → Except RemoteError α × Platform k}
    (h : ∀ p, P p → P (step p).2) : Keeps S P (onPlatform step) := by
  intro w hw hs hp
  have hstep := h w.platform hp
  rw [ends_onPlatform]
  split
  · next heq => exact ⟨.refl w, hs, by simpa only [heq] using hstep⟩
  · next heq => exact ⟨.refl w, hs, by simpa only [heq] using hstep⟩

theorem keeps_load {key : ObjectKey} : Keeps S P (load key : Run k (Option (Resource k))) :=
  Keeps.around fun w _ hs hp => ⟨.refl w, hs, hp⟩

section stable
variable (hS : Store.Stable S) (hP : Platform.Stable P)

include hS in
theorem keeps_patchFinalizers {finalizers : List String} :
    Keeps S P (patchFinalizers r finalizers) :=
  (keeps_onStore fun s => hS.patchFinalizers s _ _).around

include hS in
theorem keeps_writeStatus {status : Option k.Status} : Keeps S P (writeStatus r status) :=
  (keeps_onStore fun s => hS.writeStatus s _ _).around

include hP in
theorem keeps_getEntity {id : String} :
    Keeps S P (getEntity id : Run k (Entity k.Body)) := fun _ hw hs hp =>
  hw.getEntity (fun _ hrest => (keeps_onPlatform fun p => hP.get p id).continuing hw hrest hs hp)
    fun _ _ hrest => ⟨hrest, hs, hp⟩

include hS hP in
theorem keeps_reconcile (g : Engine k) (key : ObjectKey) (elapsed : Duration) :
    Keeps S P (g.reconcile key elapsed) := by
  intro w hw hs hp
  have hcalls : CarriedByCalls fun w' => Continues w w' ∧ S w'.store ∧ P w'.platform :=
    { load := fun _ => keeps_load.carries hw
      patchFinalizers := fun _ _ => (keeps_patchFinalizers hS).carries hw
      writeStatus := fun _ _ => (keeps_writeStatus hS).carries hw
      createEntity := fun b => (keeps_onPlatform fun p => hP.create p b).around.carries hw
      getEntity := fun _ => (keeps_getEntity hP).carries hw
      updateEntity := fun id b => (keeps_onPlatform fun p => hP.update p id b).around.carries hw
      deleteEntity := fun id => (keeps_onPlatform fun p => hP.delete p id).around.carries hw
      countOperation := fun _ => keeps_measure.carries hw
      track := fun _ => keeps_measure.carries hw
      untrack := fun _ => keeps_measure.carries hw
      publish := fun _ _ _ => keeps_publish.carries hw }
  exact hcalls.reconcile g key elapsed (fun _ => keeps_measure.carries hw) w ⟨.refl w, hs, hp⟩

include hS in
/-- What a pass leaves, where nobody else acts. -/
theorem after_reconcile {w : World k} (g : Engine k) (key : ObjectKey) (elapsed : Duration)
    (hw : w.Alone) (hs : S w.store) :
    Continues w (after (g.reconcile key elapsed) w) ∧
      S (after (g.reconcile key elapsed) w).store := by
  have hany : Platform.Stable fun _ : Platform k => True :=
    ⟨fun _ _ _ => trivial, fun _ _ _ => trivial, fun _ _ _ _ => trivial, fun _ _ _ => trivial⟩
  refine Ends.after (P := fun w' => Continues w w' ∧ S w'.store) ?_
  exact (keeps_reconcile hS hany g key elapsed w hw hs trivial).imp
    (fun _ _ h => ⟨h.1, h.2.1⟩) fun _ _ h => ⟨h.1, h.2.1⟩

end stable

end World

namespace Store
variable {s : Store k} {key : ObjectKey} {r : Resource k}

/-- No two objects have the same version, and the versions to come are new. -/
structure Versioned (s : Store k) : Prop where
  past : ∀ key r, s.get? key = some r →
    ∃ n < s.nextVersion, r.metadata.resourceVersion = some (toString n)
  apart : ∀ key₁ key₂ r₁ r₂, s.get? key₁ = some r₁ → s.get? key₂ = some r₂ →
    r₁.metadata.resourceVersion = r₂.metadata.resourceVersion → key₁ = key₂

theorem Versioned.erase (h : s.Versioned) (key : ObjectKey) :
    Versioned { s with objects := s.objects.erase key } := by
  have hmem {key' r'} (h' : Store.get? { s with objects := s.objects.erase key } key' = some r') :
      s.get? key' = some r' := by
    rw [get?_erase, Function.update_apply] at h'
    split at h'
    · cases h'
    · exact h'
  exact ⟨fun key r hr => h.past key r (hmem hr), fun key₁ key₂ r₁ r₂ h₁ h₂ =>
    h.apart key₁ key₂ r₁ r₂ (hmem h₁) (hmem h₂)⟩

theorem Versioned.put (h : s.Versioned) (key : ObjectKey) (r : Resource k) :
    (s.put key r).Versioned := by
  have hmem {key' r'} (h' : (s.put key r).get? key' = some r') :
      key' = key ∧ r'.metadata.resourceVersion = some (toString s.nextVersion) ∨
        s.get? key' = some r' := by
    rw [get?_put, Function.update_apply] at h'
    split at h'
    · next heq => exact Or.inl ⟨heq, Option.some.inj h' ▸ rfl⟩
    · exact Or.inr h'
  -- an older version cannot be the one just given
  have hnew {key' r'} (h' : s.get? key' = some r') :
      r'.metadata.resourceVersion ≠ some (toString s.nextVersion) := by
    obtain ⟨n, hn, hversion⟩ := h.past key' r' h'
    rw [hversion]
    exact fun heq => Nat.ne_of_lt hn (Nat.repr_injective (Option.some.inj heq))
  refine ⟨?_, ?_⟩
  · intro key' r' hr'
    rcases hmem hr' with ⟨-, hversion⟩ | hold
    · exact ⟨_, Nat.lt_succ_self _, hversion⟩
    · obtain ⟨n, hn, hversion⟩ := h.past key' r' hold
      exact ⟨n, Nat.lt_succ_of_lt hn, hversion⟩
  · intro key₁ key₂ r₁ r₂ h₁ h₂ heq
    rcases hmem h₁ with ⟨rfl, hv₁⟩ | hold₁ <;> rcases hmem h₂ with ⟨rfl, hv₂⟩ | hold₂
    · rfl
    · exact absurd (heq ▸ hv₁) (hnew hold₂)
    · exact absurd (heq ▸ hv₂) (hnew hold₁)
    · exact h.apart key₁ key₂ r₁ r₂ hold₁ hold₂ heq

theorem versioned_stable : Store.Stable (Versioned (k := k)) where
  patchFinalizers s key finalizers h := by
    have hs : Versioned { s with finalizerPatches := s.finalizerPatches + 1 } :=
      ⟨h.past, h.apart⟩
    unfold patchFinalizers
    dsimp only
    split
    · exact hs
    · split
      · exact (hs.put _ _).erase _
      · exact hs.put _ _
  writeStatus s r status h := by
    unfold writeStatus
    split
    · exact ⟨h.past, h.apart⟩
    · split
      · exact h
      · split
        · exact h
        · exact ⟨(h.put _ _).past, (h.put _ _).apart⟩

theorem Versioned.insert (h : s.Versioned) (r : Resource k) : (s.insert r).Versioned := h.put _ _

theorem Versioned.delete (h : s.Versioned) (key : ObjectKey) (now : Timestamp) :
    (s.delete key now).Versioned := by
  unfold Store.delete
  split
  · exact h
  · split
    · exact h.erase key
    · exact h.put _ _

/-- Every object stands under its own key. -/
def Placed (s : Store k) : Prop := ∀ key r, s.get? key = some r → r.key = key

/-- A status write that goes through reaches the object that it was worked out from. -/
def WritesBack (s : Store k) : Prop :=
  ∀ key r stored, s.get? key = some r → s.get? r.key = some stored →
    stored.metadata.resourceVersion = r.metadata.resourceVersion → r.key = key

theorem Versioned.writesBack (h : s.Versioned) : s.WritesBack :=
  fun _ _ _ hr hstored hversion => h.apart _ _ _ _ hstored hr hversion

theorem placed_empty : (empty : Store k).Placed := fun _ _ h => by cases h

theorem Placed.put (h : s.Placed) (hkey : r.key = key) : (s.put key r).Placed := by
  intro key' r' hr'
  rw [get?_put, Function.update_apply] at hr'
  split at hr'
  · next heq =>
    obtain rfl := Option.some.inj hr'
    exact hkey.trans heq.symm
  · exact h key' r' hr'

theorem Placed.erase (h : s.Placed) (key : ObjectKey) :
    Placed { s with objects := s.objects.erase key } := by
  intro key' r' hr'
  rw [get?_erase, Function.update_apply] at hr'
  split at hr'
  · cases hr'
  · exact h key' r' hr'

theorem placed_stable : Store.Stable (Placed (k := k)) where
  patchFinalizers s key finalizers h := by
    unfold patchFinalizers
    dsimp only
    split
    · exact h
    · next stored hstored =>
      have hkey : stored.key = key := h key stored hstored
      have hput : Placed ({ s with finalizerPatches := s.finalizerPatches + 1 }.put key
        { stored with metadata := { stored.metadata with finalizers := some finalizers } }) :=
        Placed.put h hkey
      split
      · exact hput.erase _
      · exact hput
  writeStatus s r status h := by
    unfold writeStatus
    split
    · exact h
    · split
      · exact h
      · next stored hstored =>
        split
        · exact h
        · exact Placed.put (r := { stored with status := status }) h (h _ stored hstored)

theorem Placed.insert (h : s.Placed) (r : Resource k) : (s.insert r).Placed := h.put rfl

theorem Placed.delete (h : s.Placed) (key : ObjectKey) (now : Timestamp) :
    (s.delete key now).Placed := by
  unfold Store.delete
  cases hr : s.get? key with
  | none => exact h
  | some r =>
    dsimp only
    split
    · exact h.erase key
    · exact h.put (h key r hr)

theorem Placed.writesBack (h : s.Placed) : s.WritesBack := fun key r _ hr _ _ => h key r hr

end Store

namespace Platform
variable {p : Platform k}

/-- Every entity stands under its own identifier. -/
def WellKeyed (p : Platform k) : Prop := ∀ id e, p.entity? id = some e → e.id = id

theorem WellKeyed.update {p' : Platform k} {id : String} {o : Option (Entity k.Body)}
    (h : p.WellKeyed) (ho : ∀ e ∈ o, e.id = id)
    (hp : p'.entity? = Function.update p.entity? id o) : p'.WellKeyed := by
  intro id' e he
  rw [hp, Function.update_apply] at he
  split at he
  · next heq => exact heq ▸ ho e he
  · exact h id' e he

theorem WellKeyed.of_eq {p' : Platform k} (h : p.WellKeyed) (hp : p'.entity? = p.entity?) :
    p'.WellKeyed := fun id e he => h id e (hp ▸ he)

theorem wellKeyed_stable : Platform.Stable (WellKeyed (k := k)) where
  create p b h := by
    rcases p.create_cases b with ⟨e, p', hs, -, he⟩ | ⟨p', hs, he⟩
    · exact hs ▸ h.of_eq he
    · exact hs ▸ h.update (by simp [newborn]) he
  get p id h := by
    rcases p.get_cases id with ⟨e, p', hs, -, he⟩ | ⟨e, p', hs, -, he⟩ <;> exact hs ▸ h.of_eq he
  update p id b h := by
    rcases p.update_cases id b with ⟨e, p', hs, he⟩ | ⟨e, p', hs, hheld, he⟩
    · exact hs ▸ h.of_eq he
    · exact hs ▸ h.update (by simp [renewed, h id e hheld]) he
  delete p id h := by
    rcases p.delete_cases id with ⟨e, p', hs, -, he⟩ | ⟨p', hs, he⟩
    · exact hs ▸ h.of_eq he
    · exact hs ▸ h.update (by simp) he

theorem entity?_remove {id : String} :
    (p.remove id).entity? = Function.update p.entity? id none := SortedMap.get?_erase_eq _ _

theorem WellKeyed.remove (h : p.WellKeyed) (id : String) : (p.remove id).WellKeyed :=
  h.update (by simp) entity?_remove

theorem entity?_setBody {id : String} {b : k.Body} : (p.setBody id b).entity? =
    Function.update p.entity? id ((p.entity? id).map fun e => { e with body := b }) :=
  SortedMap.get?_modify_eq _ _ _

theorem WellKeyed.setBody (h : p.WellKeyed) (id : String) (b : k.Body) :
    (p.setBody id b).WellKeyed := by
  refine h.update (fun e he => ?_) entity?_setBody
  obtain ⟨e₀, he₀, rfl⟩ := Option.map_eq_some_iff.1 he
  exact h id e₀ he₀

end Platform

end ResourceSync
