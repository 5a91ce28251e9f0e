import ResourceSync.Proofs.Passes

/-! Runs in which users, others on the platform and passes take turns, with a record of the
entities that the passes have created. -/
namespace ResourceSync

section runs
variable {σ δ : Type} {step : σ → δ → σ} {allowed : σ → δ → Prop} {s : σ} {ds : List δ}

/-- Each deed of a run is allowed where it is done. -/
def Along (step : σ → δ → σ) (allowed : σ → δ → Prop) : σ → List δ → Prop
  | _, [] => True
  | s, d :: ds => allowed s d ∧ Along step allowed (step s d) ds

/-- What every allowed deed keeps, a run of them keeps. -/
theorem Along.invariant {I : σ → Prop} (h : Along step allowed s ds)
    (keep : ∀ s d, allowed s d → I s → I (step s d)) (hs : I s) : I (ds.foldl step s) := by
  induction ds generalizing s with
  | nil => exact hs
  | cons d ds ih => exact ih h.2 (keep s d h.1 hs)

end runs

variable {k : Kind}

/-- The resource as the store takes it in: without a namespace it goes into the default one. -/
def Resource.placed (r : Resource k) : Resource k :=
  { r with
    metadata := { r.metadata with inNamespace := r.metadata.inNamespace.or (some "default") } }

theorem Store.get?_insert {s : Store k} {r : Resource k} : (s.insert r).get? =
    Function.update s.get? r.placed.key (some (s.stamped r.placed)) := get?_put

/-- What befalls the calls of one pass. -/
structure Circumstances (k : Kind) where
  plan : Site → List (Turn k)
  /-- How many status writes fail. -/
  storeOutage : Nat
  /-- How many calls of the platform fail. -/
  platformOutage : Nat

/-- Calls may fail, but nobody interferes. -/
def Circumstances.ArePlain (c : Circumstances k) : Prop := ∀ site, ∀ t ∈ c.plan site, t.IsPlain

/-- Calls may fail in any way and entities may be misreported, but nobody else acts. -/
def Circumstances.AreOwn (c : Circumstances k) : Prop := ∀ site, ∀ t ∈ c.plan site, t.IsOwn

theorem Circumstances.ArePlain.areOwn {c : Circumstances k} (h : c.ArePlain) : c.AreOwn :=
  fun site t ht => (h site t ht).isOwn

/-- Every call goes through. -/
def Circumstances.calm : Circumstances k := ⟨fun _ => [], 0, 0⟩

/-- One thing happens, around the first call at a site. -/
def Circumstances.once (site : Site) (t : Turn k) : Circumstances k :=
  ⟨fun s => if s = site then [t] else [], 0, 0⟩

theorem Circumstances.mem_once {site s : Site} {t t' : Turn k} (h : t' ∈ (once site t).plan s) :
    t' = t := by
  simp only [once] at h
  split at h
  · exact List.mem_singleton.1 h
  · cases h

theorem Circumstances.once_arePlain {site : Site} {t : Turn k} (h : t.IsPlain) :
    (once site t).ArePlain := fun _ _ ht => mem_once ht ▸ h

theorem Circumstances.once_areOwn {site : Site} {t : Turn k} (h : t.IsOwn) :
    (once site t).AreOwn := fun _ _ ht => mem_once ht ▸ h

theorem Circumstances.calm_arePlain : (calm : Circumstances k).ArePlain := fun _ _ h => by cases h

def World.under (w : World k) (c : Circumstances k) : World k :=
  { w with
    store := { w.store with outage := c.storeOutage }
    platform := { w.platform with outage := c.platformOutage }
    plan := c.plan }

theorem Circumstances.ArePlain.under {c : Circumstances k} (h : c.ArePlain) (w : World k) :
    (w.under c).Undisturbed := h

theorem Circumstances.AreOwn.under {c : Circumstances k} (h : c.AreOwn) (w : World k) :
    (w.under c).Alone := h

namespace World
variable {circumstances : Circumstances k}

/-- The world that a pass on the object under a key leaves. -/
def passed (g : Engine k) (w : World k) (key : ObjectKey) (elapsed : Duration)
    (circumstances : Circumstances k) : World k :=
  after (g.reconcile key elapsed) (w.under circumstances)

/-- What a pass does, and whether it fails. -/
theorem passed_effect (g : Engine k) {w : World k} (key : ObjectKey) (elapsed : Duration)
    (hv : w.store.Versioned) (hc : circumstances.ArePlain) :
    (∃ a, g.reconcile key elapsed (w.under circumstances) =
        .ok a (w.passed g key elapsed circumstances) ∧
      Effect g key (w.under circumstances) (w.passed g key elapsed circumstances) true) ∨
    ∃ f, g.reconcile key elapsed (w.under circumstances) =
        .error f (w.passed g key elapsed circumstances) ∧
      Effect g key (w.under circumstances) (w.passed g key elapsed circumstances) false := by
  have hv : (w.under circumstances).store.Versioned := ⟨hv.past, hv.apart⟩
  have hends := reconcile_effect g key elapsed (hc.under w) hv.writesBack
  cases hx : g.reconcile key elapsed (w.under circumstances) with
  | ok a w' =>
    have hw' : w.passed g key elapsed circumstances = w' := World.after_of_ok hx
    exact Or.inl ⟨a, by rw [hw'], hw' ▸ hends.of_ok hx⟩
  | error f w' =>
    have hw' : w.passed g key elapsed circumstances = w' := World.after_of_error hx
    exact Or.inr ⟨f, by rw [hw'], hw' ▸ hends.of_error hx⟩

theorem passed_stable {S : Store k → Prop} {P : Platform k → Prop} (g : Engine k) {w : World k}
    (key : ObjectKey) (elapsed : Duration) (hS : Store.Stable S) (hP : Platform.Stable P)
    (hc : circumstances.AreOwn) (hs : S (w.under circumstances).store)
    (hp : P (w.under circumstances).platform) :
    S (w.passed g key elapsed circumstances).store ∧
      P (w.passed g key elapsed circumstances).platform :=
  World.Ends.after (P := fun w' => S w'.store ∧ P w'.platform)
    ((World.keeps_reconcile hS hP g key elapsed _ (hc.under _) hs hp).imp (fun _ _ h => h.2)
      fun _ _ h => h.2)

end World

/-- One thing that is done. All but a pass is done by users of the cluster or the platform. -/
inductive Deed (k : Kind) where
  | insert (r : Resource k)
  | edit (key : ObjectKey) (r : Resource k)
  | delete (key : ObjectKey) (now : Timestamp)
  | removeEntity (id : String)
  | editEntity (id : String) (body : k.Body)
  | pass (key : ObjectKey) (elapsed : Duration) (c : Circumstances k)

/-- Nobody else acts during a pass. -/
def Deed.IsOwn : Deed k → Prop
  | .pass _ _ circumstances => circumstances.AreOwn
  | _ => True

/-- An entity that a pass has created, and the object that the pass was on: the one that was put
under its key as the `life`-th. -/
structure Birth where
  owner : ObjectKey
  life : Nat
  id : String
deriving DecidableEq, Repr

structure Chronicle (k : Kind) where
  world : World k
  /-- How many objects were put under a key so far. -/
  lives : ObjectKey → Nat
  births : List Birth
  /-- The entities that a pass could neither record nor delete again. -/
  leaks : List String

namespace Chronicle
variable {g : Engine k} {c : Chronicle k} {d : Deed k} {key : ObjectKey} {elapsed : Duration}
  {circumstances : Circumstances k}

def after (g : Engine k) (c : Chronicle k) : Deed k → Chronicle k
  | .insert r =>
    { c with
      world := { c.world with store := c.world.store.insert r }
      lives := Function.update c.lives r.placed.key (c.lives r.placed.key + 1) }
  | .edit key r => { c with world := { c.world with store := c.world.store.put key r } }
  | .delete key now => { c with world := { c.world with store := c.world.store.delete key now } }
  | .removeEntity id =>
    { c with world := { c.world with platform := c.world.platform.remove id } }
  | .editEntity id b =>
    { c with world := { c.world with platform := c.world.platform.setBody id b } }
  | .pass key elapsed circumstances =>
    let id := c.world.platform.nextId
    let world := c.world.passed g key elapsed circumstances
    { world := world
      lives := c.lives
      births :=
        if (world.platform.entity? id).isSome then ⟨key, c.lives key, id⟩ :: c.births else c.births
      leaks := (g.leak? key (c.world.under circumstances)).toList ++ c.leaks }

/-- The next identifier is fresh. -/
structure Fresh (c : Chronicle k) : Prop where
  nonempty : c.world.platform.nextId ≠ ""
  unheld : c.world.platform.entity? c.world.platform.nextId = none
  unborn : ∀ b ∈ c.births, b.id ≠ c.world.platform.nextId

/-- Objects come without a status and under a free key, edits keep what they have to, and passes
have fresh identifiers. -/
def Allows (keeps : Resource k → Resource k → Prop) (c : Chronicle k) : Deed k → Prop
  | .insert r => r.status = none ∧ c.world.store.get? r.placed.key = none
  | .edit key r' => ∃ r, c.world.store.get? key = some r ∧ keeps r r'
  | .pass _ _ circumstances => circumstances.ArePlain ∧ c.Fresh
  | .delete .. | .removeEntity _ | .editEntity .. => True

/-- Where a run starts: without objects, and without a record. -/
structure Begins (c : Chronicle k) : Prop where
  objects : ∀ key, c.world.store.get? key = none
  wellKeyed : c.world.platform.WellKeyed
  births : c.births = []
  leaks : c.leaks = []

theorem Allows.isOwn {keeps : Resource k → Resource k → Prop} (h : c.Allows keeps d) : d.IsOwn := by
  cases d with
  | pass => exact h.1.areOwn
  | insert | edit | delete | removeEntity | editEntity => trivial

/-- Versions stay apart and entities stay under their identifiers, whatever is done. -/
theorem versioned_after (hd : d.IsOwn) (hv : c.world.store.Versioned)
    (hp : c.world.platform.WellKeyed) :
    (c.after g d).world.store.Versioned ∧ (c.after g d).world.platform.WellKeyed := by
  cases d with
  | insert r => exact ⟨hv.insert r, hp⟩
  | edit key r => exact ⟨hv.put key r, hp⟩
  | delete key now => exact ⟨hv.delete key now, hp⟩
  | removeEntity id => exact ⟨hv, hp.remove id⟩
  | editEntity id b => exact ⟨hv, hp.setBody id b⟩
  | pass key elapsed circumstances =>
    exact World.passed_stable g key elapsed Store.versioned_stable Platform.wellKeyed_stable
      hd ⟨hv.past, hv.apart⟩ hp

end Chronicle

namespace Sample

/-- A team without a namespace, a status or finalizers. -/
def team : Resource .team :=
  ⟨{ Metadata.empty with name := some "alpha" }, (⟨"alpha", none, [], none⟩ : TeamSpec), none⟩

def key : ObjectKey := ⟨"default", "alpha"⟩

def engine : Engine .team := ⟨.everything, .zero, .zero⟩

def start : Chronicle .team := ⟨.empty ["e-1", "e-2"], fun _ => 0, [], []⟩

theorem start_begins : start.Begins :=
  ⟨fun _ => rfl, (fun _ _ h => by cases h), rfl, rfl⟩

end Sample

end ResourceSync
