import ResourceSync.Proofs.History
import ResourceSync.Proofs.Recording

/-! Two engines on one cluster, with a platform each or with one between them. One of them owns an
object: the labels of the object stay inside its selector. -/
namespace ResourceSync

variable {k : Kind}

inductive Party where
  | owner
  | stranger
deriving DecidableEq, Repr

structure Fleet (k : Kind) where
  store : Store k
  /-- Whether both parties work on the same platform. -/
  shared : Bool
  platform : Party → Platform k
  metrics : Party → Metrics
  events : List Event

/-- One thing that is done. Everything but a pass is done by users. -/
inductive Move (k : Kind) where
  | insert (r : Resource k)
  | edit (key : ObjectKey) (r : Resource k)
  | delete (key : ObjectKey) (now : Timestamp)
  | removeEntity (p : Party) (id : String)
  | editEntity (p : Party) (id : String) (body : k.Body)
  | pass (p : Party) (key : ObjectKey) (elapsed : Duration) (c : Circumstances k)

namespace Fleet
variable {engine : Party → Engine k} {f : Fleet k} {m : Move k} {p q : Party} {pl : Platform k}
  {key place : ObjectKey} {elapsed : Duration} {circumstances : Circumstances k}

/-- The world as a party sees it. -/
def worldOf (f : Fleet k) (p : Party) : World k :=
  ⟨f.store, f.platform p, f.metrics p, f.events, fun _ => []⟩

/-- The platforms after that of a party has changed. -/
def moved (f : Fleet k) (p : Party) (pl : Platform k) : Party → Platform k :=
  if f.shared then fun _ => pl else Function.update f.platform p pl

/-- What a pass of a party leaves, as the party sees it. -/
def passed (engine : Party → Engine k) (f : Fleet k) (p : Party) (key : ObjectKey)
    (elapsed : Duration) (circumstances : Circumstances k) : World k :=
  (f.worldOf p).passed (engine p) key elapsed circumstances

def after (engine : Party → Engine k) (f : Fleet k) : Move k → Fleet k
  | .insert r => { f with store := f.store.insert r }
  | .edit key r => { f with store := f.store.put key r }
  | .delete key now => { f with store := f.store.delete key now }
  | .removeEntity p id => { f with platform := f.moved p ((f.platform p).remove id) }
  | .editEntity p id b => { f with platform := f.moved p ((f.platform p).setBody id b) }
  | .pass p key elapsed circumstances =>
    let world := f.passed engine p key elapsed circumstances
    { f with
      store := world.store
      platform := f.moved p world.platform
      metrics := Function.update f.metrics p world.metrics
      events := world.events }

/-- The next identifier of a party's platform is fresh. -/
structure Fresh (f : Fleet k) (p : Party) : Prop where
  nonempty : (f.platform p).nextId ≠ ""
  unheld : (f.platform p).entity? (f.platform p).nextId = none
  unrecorded : f.shared = true → ∀ e ∈ f.store.objects.toList,
    e.2.remoteId ≠ some (f.platform p).nextId

/-- Passes are made on objects that the engine admits; users never touch the status or the name, and
keep the labels of the object at `place` inside the selector of its owner. -/
def Allows (engine : Party → Engine k) (place : ObjectKey) (f : Fleet k) : Move k → Prop
  | .insert r => r.status = none ∧ f.store.get? r.placed.key = none ∧
      (r.placed.key = place → (engine .owner).inScope r = true)
  | .edit key r' => ∃ r, f.store.get? key = some r ∧ r'.status = r.status ∧ r'.key = r.key ∧
      (key = place → (engine .owner).inScope r' = true)
  | .pass p key _ circumstances => circumstances.ArePlain ∧ f.Fresh p ∧
      (f.store.get? key).all (engine p).admits = true
  | .delete .. | .removeEntity .. | .editEntity .. => True

/-- Where a run starts. -/
structure Begins (f : Fleet k) : Prop where
  objects : ∀ key, f.store.get? key = none
  wellKeyed : ∀ p, (f.platform p).WellKeyed
  joined : f.shared = true → ∀ p q, f.platform p = f.platform q

/-- What holds at every moment of a run. -/
structure Sound (engine : Party → Engine k) (place : ObjectKey) (f : Fleet k) : Prop where
  versioned : f.store.Versioned
  wellKeyed : ∀ p, (f.platform p).WellKeyed
  joined : f.shared = true → ∀ p q, f.platform p = f.platform q
  placed : ∀ key r, f.store.get? key = some r → r.key = key
  owned : ∀ r, f.store.get? place = some r → (engine .owner).inScope r = true
  distinct : f.shared = true → f.store.Distinct

theorem Begins.sound (h : f.Begins) : f.Sound engine place where
  versioned := ⟨by simp [h.objects], by simp [h.objects]⟩
  wellKeyed := h.wellKeyed
  joined := h.joined
  placed := by simp [h.objects]
  owned := by simp [h.objects]
  distinct := by simp [Store.Distinct, h.objects]

@[simp] theorem moved_self : f.moved p pl p = pl := by
  unfold moved
  split
  · rfl
  · exact Function.update_self _ _ _

theorem moved_of_shared (h : f.shared = true) : f.moved p pl q = pl := by
  simp only [moved, h, if_true]

theorem moved_of_ne (h : f.shared = false) (hq : q ≠ p) : f.moved p pl q = f.platform q := by
  simp only [moved, h, Bool.false_eq_true, if_false, Function.update_of_ne hq]

theorem moved_joined (h : f.shared = true) (q₁ q₂ : Party) : f.moved p pl q₁ = f.moved p pl q₂ := by
  rw [moved_of_shared h, moved_of_shared h]

theorem moved_wellKeyed (h : ∀ p, (f.platform p).WellKeyed) (hpl : pl.WellKeyed) :
    (f.moved p pl q).WellKeyed := by
  by_cases hq : q = p
  · subst hq
    rwa [moved_self]
  · cases hs : f.shared with
    | true => rwa [moved_of_shared hs]
    | false =>
      rw [moved_of_ne hs hq]
      exact h q

theorem passed_effect (h : f.Sound engine place) (p : Party) (key : ObjectKey)
    (elapsed : Duration) (hc : circumstances.ArePlain) :
    ∃ ok, Effect (engine p) key ((f.worldOf p).under circumstances)
      (f.passed engine p key elapsed circumstances) ok := by
  rcases World.passed_effect (engine p) (w := f.worldOf p) key elapsed h.versioned hc with
    ⟨_, -, heffect⟩ | ⟨_, -, heffect⟩
  · exact ⟨_, heffect⟩
  · exact ⟨_, heffect⟩

theorem Sound.pass (h : f.Sound engine place) (hc : circumstances.ArePlain) (hf : f.Fresh p) :
    (f.after engine (.pass p key elapsed circumstances)).Sound engine place := by
  obtain ⟨ok, heffect⟩ := passed_effect h p key elapsed hc
  obtain ⟨hv, hp⟩ := World.passed_stable (engine p) (w := f.worldOf p) key elapsed
    Store.versioned_stable Platform.wellKeyed_stable hc.areOwn
    ⟨h.versioned.past, h.versioned.apart⟩ (h.wellKeyed p)
  refine ⟨hv, fun q => moved_wellKeyed h.wellKeyed hp, moved_joined (f := f), ?_,
    ?_, ?_⟩
  · intro key' r' hr'
    obtain ⟨r, hr, hversion⟩ := heffect.versions hr'
    exact hversion.key.trans (h.placed key' r hr)
  · intro r' hr'
    obtain ⟨r, hr, hversion⟩ := heffect.versions hr'
    rw [Engine.inScope, hversion.labelMap]
    exact h.owned r hr
  · intro hs
    have hchange := heffect.idChange hf.nonempty (h.wellKeyed p)
    exact hchange.distinct (h.distinct hs) fun key r hr =>
      hf.unrecorded hs _ (SortedMap.mem_toList_of_get? hr)

/-- Objects may be added without an identifier, vanish, or change but for name and identifier. -/
theorem Sound.kept {store : Store k} (h : f.Sound engine place) (hv : store.Versioned)
    (ho : ∀ key r', store.get? key = some r' → r'.key = key ∧
      (key = place → (engine .owner).inScope r' = true) ∧
      ∀ id, r'.remoteId = some id → ∃ r, f.store.get? key = some r ∧ r.remoteId = some id) :
    Sound engine place { f with store := store } where
  versioned := hv
  wellKeyed := h.wellKeyed
  joined := h.joined
  placed key r hr := (ho key r hr).1
  owned r hr := (ho place r hr).2.1 rfl
  distinct hs := by
    intro key₁ key₂ r₁ r₂ id hr₁ hr₂ hid₁ hid₂
    obtain ⟨r, hr, hid⟩ := (ho key₁ r₁ hr₁).2.2 id hid₁
    obtain ⟨r', hr', hid'⟩ := (ho key₂ r₂ hr₂).2.2 id hid₂
    exact h.distinct hs key₁ key₂ r r' id hr hr' hid hid'

theorem Sound.after (h : f.Sound engine place) (hm : f.Allows engine place m) :
    (f.after engine m).Sound engine place := by
  have hsame (key : ObjectKey) (r : Resource k) (hr : f.store.get? key = some r) :
      r.key = key ∧ (key = place → (engine .owner).inScope r = true) ∧
        ∀ id, r.remoteId = some id → ∃ r, f.store.get? key = some r ∧ r.remoteId = some id :=
    ⟨h.placed key r hr, fun heq => h.owned r (heq ▸ hr), fun id hid => ⟨r, hr, hid⟩⟩
  cases m with
  | insert r =>
    obtain ⟨hstatus, -, hscope⟩ := hm
    refine h.kept (h.versioned.insert r) ?_
    intro key r' hr'
    rw [Store.get?_insert, Function.update_apply] at hr'
    split at hr'
    · next heq =>
      subst heq
      obtain rfl := Option.some.inj hr'
      refine ⟨rfl, hscope, ?_⟩
      intro id hid
      simp [Resource.remoteId, Store.stamped, Resource.placed, hstatus] at hid
    · exact hsame key r' hr'
  | edit key r' =>
    obtain ⟨r, hr, hstatus, hkey, hscope⟩ := hm
    refine h.kept (h.versioned.put key r') ?_
    intro key' r'' hr''
    rw [Store.get?_put, Function.update_apply] at hr''
    split at hr''
    · next heq =>
      subst heq
      obtain rfl := Option.some.inj hr''
      refine ⟨hkey.trans (h.placed key' r hr), hscope, fun id hid => ⟨r, hr, ?_⟩⟩
      rw [← hid]
      exact (Resource.remoteId_eq_of_status hstatus).symm
    · exact hsame key' r'' hr''
  | delete key now =>
    refine h.kept (h.versioned.delete key now) ?_
    intro key' r' hr'
    rcases f.store.delete_cases key now with ho | ⟨r, hr, ⟨-, ho⟩ | ⟨-, ho⟩⟩
    · exact hsame key' r' (ho ▸ hr')
    · rw [ho, Function.update_apply] at hr'
      split at hr'
      · cases hr'
      · exact hsame key' r' hr'
    · rw [ho, Function.update_apply] at hr'
      split at hr'
      · next heq =>
        subst heq
        obtain rfl := Option.some.inj hr'
        exact hsame key' r hr
      · exact hsame key' r' hr'
  | removeEntity p id =>
    exact ⟨h.versioned, fun q => moved_wellKeyed h.wellKeyed ((h.wellKeyed p).remove id),
      moved_joined (f := f), h.placed, h.owned, h.distinct⟩
  | editEntity p id b =>
    exact ⟨h.versioned, fun q => moved_wellKeyed h.wellKeyed ((h.wellKeyed p).setBody id b),
      moved_joined (f := f), h.placed, h.owned, h.distinct⟩
  | pass p key elapsed circumstances => exact h.pass hm.1 hm.2.1

end Fleet

end ResourceSync
