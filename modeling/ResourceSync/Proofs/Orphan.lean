import ResourceSync.Proofs.DurableLink

/-! When a run can leave the platform with an entity whose object is gone: exactly when the creation
of the entity was cut short between the recording of its identifier and the finalizer. -/
namespace ResourceSync

variable {k : Kind}

open World

/-- The pass records an identifier and fails before its object has the finalizer. -/
structure Engine.CutShort (g : Engine k) (key : ObjectKey) (elapsed : Duration) (w : World k) :
    Prop where
  failed : ∃ f, g.reconcile key elapsed w = .error f (World.after (g.reconcile key elapsed) w)
  unrecorded : w.idAt key = some none
  unguarded : ∃ r id, (World.after (g.reconcile key elapsed) w).store.get? key = some r ∧
    r.remoteId = some id ∧ r.hasFinalizer k.finalizer = false

namespace Deed

def IsPass : Deed k → Prop
  | pass .. => True
  | _ => False

end Deed

namespace Chronicle
variable {g : Engine k} {c c' : Chronicle k} {d : Deed k}

/-- Edits never touch the status, the name or this kind's finalizer. -/
def KeepsBond (r r' : Resource k) : Prop :=
  r'.status = r.status ∧ r'.key = r.key ∧
    r'.hasFinalizer k.finalizer = r.hasFinalizer k.finalizer

/-- The platform holds an entity that was created for an object of a key that has none. -/
def Orphans (c : Chronicle k) : Prop :=
  ∃ b ∈ c.births, c.world.store.get? b.owner = none ∧ c.world.Holds b.id

/-- Nothing that is done without a pass brings about an orphan. -/
def Safe (g : Engine k) (c : Chronicle k) : Prop :=
  ∀ ds, (∀ d ∈ ds, ¬ d.IsPass) → Along (after g) (Allows KeepsBond) c ds →
    ¬ (ds.foldl (after g) c).Orphans

/-- The deed is a pass that is cut short. -/
def CutsShort (g : Engine k) (c : Chronicle k) : Deed k → Prop
  | .pass key elapsed circumstances => g.CutShort key elapsed (c.world.under circumstances)
  | _ => False

theorem allows_of_keepsBond (h : c.Allows KeepsBond d) : c.Allows KeepsStatus d := by
  cases d with
  | edit key r' =>
    obtain ⟨r, hr, hkeeps⟩ := h
    exact ⟨r, hr, hkeeps.1⟩
  | _ => exact h

/-- Every created entity that is left belongs to an object that records it and has the finalizer. -/
structure Guarded (c : Chronicle k) : Prop where
  versioned : c.world.store.Versioned
  wellKeyed : c.world.platform.WellKeyed
  placed : ∀ key r, c.world.store.get? key = some r → r.key = key
  guarded : ∀ b ∈ c.births, c.world.Holds b.id → ∃ r, c.world.store.get? b.owner = some r ∧
    r.remoteId = some b.id ∧ r.hasFinalizer k.finalizer = true

theorem Begins.guarded (h : c.Begins) : c.Guarded where
  versioned := h.coherent.versioned
  wellKeyed := h.wellKeyed
  placed := by simp [h.objects]
  guarded := by simp [h.births]

theorem Guarded.not_orphans (h : c.Guarded) : ¬ c.Orphans := by
  rintro ⟨b, hb, hnone, hheld⟩
  obtain ⟨r, hr, -⟩ := h.guarded b hb hheld
  simp [hnone] at hr

section kept
variable (h : c.Guarded) (hv : c'.world.store.Versioned) (hp : c'.world.platform.WellKeyed)
  (he : ∀ id, c'.world.Holds id → c.world.Holds id)
  (hb : ∀ b ∈ c'.births, c'.world.Holds b.id → b ∈ c.births)
include h hv hp he hb

/-- Entities may vanish while the objects stay. -/
theorem Guarded.kept (ho : c'.world.store.get? = c.world.store.get?) : c'.Guarded := by
  refine ⟨hv, hp, fun key r hr => h.placed key r (ho ▸ hr), ?_⟩
  intro b hb' hheld
  rw [ho]
  exact h.guarded b (hb b hb' hheld) (he _ hheld)

/-- An object may vanish whose entity is gone. -/
theorem Guarded.erase {key : ObjectKey}
    (ho : c'.world.store.get? = Function.update c.world.store.get? key none)
    (hfree : ∀ r id, c.world.store.get? key = some r → r.remoteId = some id →
      r.hasFinalizer k.finalizer = true → ¬ c'.world.Holds id) : c'.Guarded := by
  refine ⟨hv, hp, ?_, ?_⟩
  · intro key' r hr
    rw [ho, Function.update_apply] at hr
    split at hr
    · cases hr
    · exact h.placed key' r hr
  · intro b hb' hheld
    obtain ⟨r, hr, hid, hfin⟩ := h.guarded b (hb b hb' hheld) (he _ hheld)
    have hne : b.owner ≠ key := fun heq => hfree r b.id (heq ▸ hr) hid hfin hheld
    exact ⟨r, by rw [ho, Function.update_of_ne hne, hr], hid, hfin⟩

/-- An object may change that keeps the bond to its entity. -/
theorem Guarded.put {key : ObjectKey} {r r' : Resource k} (hr : c.world.store.get? key = some r)
    (ho : c'.world.store.get? = Function.update c.world.store.get? key (some r'))
    (hkey : r'.key = r.key)
    (hbond : ∀ id, r.remoteId = some id → r.hasFinalizer k.finalizer = true →
      c'.world.Holds id → r'.remoteId = some id ∧ r'.hasFinalizer k.finalizer = true) :
    c'.Guarded := by
  refine ⟨hv, hp, ?_, ?_⟩
  · intro key' r'' hr''
    rw [ho, Function.update_apply] at hr''
    split at hr''
    · next heq =>
      obtain rfl := Option.some.inj hr''
      exact hkey.trans ((h.placed key r hr).trans heq.symm)
    · exact h.placed key' r'' hr''
  · intro b hb' hheld
    obtain ⟨r₀, hr₀, hid, hfin⟩ := h.guarded b (hb b hb' hheld) (he _ hheld)
    by_cases heq : b.owner = key
    · obtain rfl := Option.some.inj (hr.symm.trans (heq ▸ hr₀))
      exact ⟨r', by rw [ho, heq, Function.update_self], hbond b.id hid hfin hheld⟩
    · exact ⟨r₀, by rw [ho, Function.update_of_ne heq, hr₀], hid, hfin⟩

end kept

/-- What is done without a pass keeps every entity guarded. -/
theorem Guarded.after_of_not_isPass (h : c.Guarded) (hd : c.Allows KeepsBond d)
    (hpass : ¬ d.IsPass) : (c.after g d).Guarded := by
  obtain ⟨hv, hp⟩ := versioned_after (g := g) hd.isOwn h.versioned h.wellKeyed
  cases d with
  | insert r =>
    have ho : (c.after g (.insert r)).world.store.get? = _ := Store.get?_insert
    refine ⟨hv, hp, ?_, ?_⟩
    · intro key' r' hr'
      rw [ho, Function.update_apply] at hr'
      split at hr'
      · next heq =>
        obtain rfl := Option.some.inj hr'
        exact heq.symm
      · exact h.placed key' r' hr'
    · intro b hb hheld
      obtain ⟨r₀, hr₀, hbond⟩ := h.guarded b hb hheld
      have hne : b.owner ≠ r.placed.key := by
        intro heq
        simp [heq, hd.2] at hr₀
      exact ⟨r₀, by rw [ho, Function.update_of_ne hne, hr₀], hbond⟩
  | edit key r' =>
    obtain ⟨r, hr, hstatus, hkey, hfin⟩ := hd
    refine h.put hv hp (fun _ hid => hid) (fun _ hb _ => hb) hr Store.get?_put hkey
      fun id hid hfin' _ => ⟨?_, hfin.trans hfin'⟩
    exact (Resource.remoteId_eq_of_status hstatus).trans hid
  | delete key now =>
    rcases c.world.store.delete_cases key now with ho | ⟨r, hr, ⟨hempty, ho⟩ | ⟨-, ho⟩⟩
    · exact h.kept hv hp (fun _ hid => hid) (fun _ hb _ => hb) ho
    · refine h.erase hv hp (fun _ hid => hid) (fun _ hb _ => hb) ho ?_
      intro r' id hr' _ hfin
      obtain rfl := Option.some.inj (hr.symm.trans hr')
      simp [Resource.hasFinalizer, hempty] at hfin
    · exact h.put hv hp (fun _ hid => hid) (fun _ hb _ => hb) hr ho rfl
        fun id hid hfin _ => ⟨hid, hfin⟩
  | removeEntity id =>
    exact h.kept hv hp (fun _ => holds_of_update_none Platform.entity?_remove)
      (fun _ hb _ => hb) rfl
  | editEntity id b =>
    exact h.kept hv hp (fun _ => holds_of_update_map Platform.entity?_setBody)
      (fun _ hb _ => hb) rfl
  | pass => exact absurd trivial hpass

section pass
variable {key : ObjectKey} {elapsed : Duration} {circumstances : Circumstances k}

/-- The entity that a pass creates is guarded once the finalizer stands. -/
theorem Guarded.recorded (h : c.Guarded) (hf : c.Fresh) {r r' : Resource k}
    (hv : (c.world.passed g key elapsed circumstances).store.Versioned)
    (hp : (c.world.passed g key elapsed circumstances).platform.WellKeyed)
    (hr : c.world.store.get? key = some r) (hnone : r.remoteId = none)
    (hrec : Recorded (c.world.under circumstances) (c.world.passed g key elapsed circumstances)
      key r r')
    (hfin : r'.hasFinalizer k.finalizer = true) :
    (c.after g (.pass key elapsed circumstances)).Guarded := by
  have ho : (c.world.passed g key elapsed circumstances).store.get? =
    Function.update c.world.store.get? key (some r') := hrec.objects
  obtain ⟨body, he⟩ := hrec.entities
  refine ⟨hv, hp, ?_, ?_⟩
  · intro key' r'' hr''
    change (c.world.passed g key elapsed circumstances).store.get? key' = _ at hr''
    rw [ho, Function.update_apply] at hr''
    split at hr''
    · next heq =>
      obtain rfl := Option.some.inj hr''
      exact hrec.version.key.trans ((h.placed key r hr).trans heq.symm)
    · exact h.placed key' r'' hr''
  · intro b hb hheld
    change ∃ r, (c.world.passed g key elapsed circumstances).store.get? b.owner = some r ∧ _
    rcases mem_births hb with hb | ⟨rfl, -⟩
    · have hold := ((holds_update he).1 hheld).resolve_right (hf.unborn b hb)
      obtain ⟨r₀, hr₀, hid, hfin₀⟩ := h.guarded b hb hold
      have hne : b.owner ≠ key := by
        intro heq
        obtain rfl := Option.some.inj (hr.symm.trans (heq ▸ hr₀))
        simp [hnone] at hid
      exact ⟨r₀, by rw [ho, Function.update_of_ne hne, hr₀], hid, hfin₀⟩
    · exact ⟨r', by rw [ho, Function.update_self], hrec.remoteId hf.nonempty, hfin⟩

/-- A pass keeps every entity guarded, unless it is cut short or fails to undo a creation. -/
theorem Guarded.pass (h : c.Guarded) (hc : circumstances.ArePlain) (hf : c.Fresh)
    (hcut : ¬ g.CutShort key elapsed (c.world.under circumstances))
    (hleaks : (c.after g (.pass key elapsed circumstances)).leaks = []) :
    (c.after g (.pass key elapsed circumstances)).Guarded := by
  have hd : c.Allows KeepsBond (.pass key elapsed circumstances) := ⟨hc, hf⟩
  obtain ⟨hv, hp⟩ := versioned_after (g := g) hd.isOwn h.versioned h.wellKeyed
  have hb (he : ∀ id, (c.world.passed g key elapsed circumstances).Holds id → c.world.Holds id) (b)
      (hb : b ∈ (c.after g (.pass key elapsed circumstances)).births)
      (_ : (c.world.passed g key elapsed circumstances).Holds b.id) : b ∈ c.births :=
    (mem_births hb).resolve_right fun hborn => he _ hborn.2 hf.unheld
  obtain ⟨ok, hfailed, heffect⟩ : ∃ ok, (ok = false →
      ∃ f, g.reconcile key elapsed (c.world.under circumstances) =
        .error f (c.world.passed g key elapsed circumstances)) ∧
      Effect g key (c.world.under circumstances) (c.world.passed g key elapsed circumstances)
        ok := by
    rcases passed_effect g key elapsed h.versioned hc with ⟨_, -, heffect⟩ | ⟨f, hx, heffect⟩
    · exact ⟨true, by simp, heffect⟩
    · exact ⟨false, fun _ => ⟨f, hx⟩, heffect⟩
  cases heffect with
  | idle ho he =>
    have he' (id) : (c.world.passed g key elapsed circumstances).Holds id → c.world.Holds id :=
      holds_of_eq he
    exact h.kept hv hp he' (hb he') ho
  | undone _ _ ho he =>
    have he' (id) : (c.world.passed g key elapsed circumstances).Holds id → c.world.Holds id :=
      holds_of_update_none he
    exact h.kept hv hp he' (hb he') ho
  | leaked _ _ leak _ _ =>
    have hmem : c.world.platform.nextId ∈ (c.after g (.pass key elapsed circumstances)).leaks :=
      List.mem_append_left _ (Option.mem_toList.2 leak)
    simp [hleaks] at hmem
  | @cut r r' hr due hrec _ =>
    have hnone := (Engine.lifecycle_eq_pendingCreation_iff.1 due).1
    refine h.recorded hf hv hp hr hnone hrec ?_
    by_contra hno
    refine hcut ⟨hfailed rfl, by rw [idAt_of_get? hr, hnone], r', c.world.platform.nextId, ?_,
      hrec.remoteId hf.nonempty, by simpa using hno⟩
    exact (congrFun hrec.objects key).trans (Function.update_self _ _ _)
  | created hr due hrec hfin =>
    exact h.recorded hf hv hp hr (Engine.lifecycle_eq_pendingCreation_iff.1 due).1 hrec
      (Resource.hasFinalizer_of_ensured hfin)
  | @forgotten r r' id hr _ hid hgone hversion _ _ ho he =>
    have he' (id) : (c.world.passed g key elapsed circumstances).Holds id → c.world.Holds id :=
      holds_of_eq he
    refine h.put hv hp he' (hb he') hr ho hversion.key ?_
    intro id' hid' _ hheld
    obtain rfl := Option.some.inj (hid.symm.trans hid')
    exact absurd hgone (he' _ hheld)
  | @updated r id e e' _ hr _ hid hheld hsame ho he =>
    have hid' : e'.id = id := hsame.trans (h.wellKeyed id e hheld)
    have he' (id') : (c.world.passed g key elapsed circumstances).Holds id' → c.world.Holds id' :=
      holds_of_update_held he hheld
    rcases ho with ho | ⟨r', hversion, hstatus, hfin, ho⟩
    · exact h.kept hv hp he' (hb he') ho
    · refine h.put hv hp he' (hb he') hr ho hversion.key fun id₀ hid₀ hfin₀ _ => ⟨?_, ?_⟩
      · have hne : e'.id ≠ "" := hid' ▸ Resource.remoteId_ne_empty hid
        rw [Resource.remoteId_of_observedStatus hne hstatus, hid', ← hid, hid₀]
      · rw [Resource.hasFinalizer_eq_of_finalizers hfin, hfin₀]
  | tornDown hr _ ho he =>
    have he' (id) (hid : (c.world.passed g key elapsed circumstances).Holds id) :
        c.world.Holds id := (holds_of_dropped he hid).1
    exact h.kept hv hp he' (hb he') ho
  | @released r stored hr _ _ hplace ho he =>
    have he' (id) (hid : (c.world.passed g key elapsed circumstances).Holds id) :
        c.world.Holds id := (holds_of_dropped he hid).1
    have hgone (id) (hid : (c.world.passed g key elapsed circumstances).Holds id) :
        r.remoteId ≠ some id := (holds_of_dropped (w := c.world) he hid).2
    have hkey : r.key = key := h.placed key r hr
    rw [hkey] at hplace ho
    obtain rfl := Option.some.inj (hr.symm.trans hplace)
    cases hfin : c.world.store.refinalized r
        (r.metadata.finalizerList.filter fun f => f ≠ k.finalizer) with
    | none =>
      refine h.erase hv hp he' (hb he') (ho.trans (congrArg _ hfin)) ?_
      intro r₀ id hr₀ hid _ hheld
      obtain rfl := Option.some.inj (hr.symm.trans hr₀)
      exact hgone id hheld hid
    | some r' =>
      exact h.put hv hp he' (hb he') hr (ho.trans (congrArg _ hfin))
        (Store.refinalized_eq_some hfin).1.key fun id hid _ hheld =>
          absurd hid (hgone id hheld)

end pass

theorem leaks_subset {id : String} (h : id ∈ c.leaks) : id ∈ (c.after g d).leaks := by
  cases d with
  | pass => exact List.mem_append_right _ h
  | _ => exact h

theorem leaks_subset_run (ds : List (Deed k)) {id : String} (h : id ∈ c.leaks) :
    id ∈ (ds.foldl (after g) c).leaks := by
  induction ds generalizing c with
  | nil => exact h
  | cons d ds ih => exact ih (leaks_subset h)

theorem Guarded.after (h : c.Guarded) (hd : c.Allows KeepsBond d) (hcut : ¬ c.CutsShort g d)
    (hleaks : (c.after g d).leaks = []) : (c.after g d).Guarded := by
  by_cases hpass : d.IsPass
  · cases d with
    | pass => exact h.pass hd.1 hd.2 hcut hleaks
    | _ => exact hpass.elim
  · exact h.after_of_not_isPass hd hpass

theorem Guarded.safe (h : c.Guarded) : c.Safe g := by
  intro ds husers hds
  suffices (ds.foldl (Chronicle.after g) c).Guarded from this.not_orphans
  induction ds generalizing c with
  | nil => exact h
  | cons d ds ih =>
    obtain ⟨hd, hds⟩ := hds
    exact ih (h.after_of_not_isPass hd (husers d List.mem_cons_self))
      (fun d' hd' => husers d' (List.mem_cons_of_mem d hd')) hds

/-- An object that records a created entity and lacks the finalizer can be deleted at once, when its
other finalizers are taken off. -/
theorem not_safe_of_unguarded {b : Birth} {r : Resource k} (hb : b ∈ c.births)
    (hheld : c.world.Holds b.id) (hr : c.world.store.get? b.owner = some r)
    (hfin : r.hasFinalizer k.finalizer = false) : ¬ c.Safe g := by
  intro hsafe
  let bare : Resource k := { r with metadata := { r.metadata with finalizers := some [] } }
  let edited := c.after g (.edit b.owner bare)
  have hedited : edited.world.store.get? b.owner = some (c.world.store.stamped bare) :=
    (congrFun Store.get?_put b.owner).trans (Function.update_self _ _ _)
  refine hsafe [.edit b.owner bare, .delete b.owner .earliest] (by simp [Deed.IsPass])
    ⟨⟨r, hr, rfl, rfl, hfin.symm⟩, trivial, trivial⟩ ⟨b, hb, ?_, hheld⟩
  change (edited.world.store.delete b.owner .earliest).get? b.owner = none
  have hempty : (c.world.store.stamped bare).metadata.finalizerList.isEmpty = true := rfl
  simp only [Store.delete, hedited]
  rw [if_pos hempty, Store.get?_erase, Function.update_self]

/-- After a pass that was cut short, a user may delete the object at once. -/
theorem CutShort.not_safe {key : ObjectKey} {elapsed : Duration}
    {circumstances : Circumstances k} (h : c.Coherent) (hc : circumstances.ArePlain) (hf : c.Fresh)
    (hcut : g.CutShort key elapsed (c.world.under circumstances)) :
    ¬ (c.after g (.pass key elapsed circumstances)).Safe g := by
  obtain ⟨-, hnone, r, id, hr, hid, hfin⟩ := hcut
  have hchange := h.idChange g key elapsed hc hf
  obtain ⟨rfl, hheld⟩ := hchange.eq_nextId hnone ((idAt_of_get? hr).trans (congrArg some hid))
  exact not_safe_of_unguarded (born hheld) hheld hr hfin

theorem Coherent.along_not_cutsShort {ds : List (Deed k)} (h : c.Coherent)
    (hds : Along (Chronicle.after g) (Allows KeepsBond) c ds)
    (hsafe : ∀ p, p <+: ds → (p.foldl (Chronicle.after g) c).Safe g) :
    Along (Chronicle.after g) (fun c d => ¬ c.CutsShort g d) c ds := by
  induction ds generalizing c with
  | nil => trivial
  | cons d ds ih =>
    obtain ⟨hd, hds⟩ := hds
    refine ⟨?_, ih (h.after (allows_of_keepsBond hd)) hds fun p hp =>
      hsafe (d :: p) (List.cons_prefix_cons.2 ⟨rfl, hp⟩)⟩
    intro hcut
    cases d with
    | pass key elapsed circumstances =>
      have hafter := hsafe [.pass key elapsed circumstances]
        (List.cons_prefix_cons.2 ⟨rfl, List.nil_prefix⟩)
      exact CutShort.not_safe h hd.1 hd.2 hcut hafter
    | _ => exact hcut

theorem Guarded.safe_of_prefix {ds p : List (Deed k)} (h : c.Guarded)
    (hds : Along (Chronicle.after g) (Allows KeepsBond) c ds)
    (hleaks : (ds.foldl (Chronicle.after g) c).leaks = [])
    (huncut : Along (Chronicle.after g) (fun c d => ¬ c.CutsShort g d) c ds) (hp : p <+: ds) :
    (p.foldl (Chronicle.after g) c).Safe g := by
  induction p generalizing c ds with
  | nil => exact h.safe
  | cons d p ih =>
    obtain ⟨rest, rfl⟩ := hp
    have hnone : (c.after g d).leaks = [] := List.eq_nil_iff_forall_not_mem.2 fun id hid => by
      have hrun := leaks_subset_run (g := g) (p ++ rest) hid
      exact List.not_mem_nil (hleaks ▸ hrun)
    exact ih (h.after hds.1 huncut.1 hnone) hds.2 hleaks huncut.2 (List.prefix_append p rest)

/-- A run in which every compensating delete goes through never leaves the platform with an entity
whose object is gone, nor can users bring that about, exactly when none of its passes is cut
short. -/
theorem safe_iff_not_cutsShort {ds : List (Deed k)} (hc : c.Begins)
    (hds : Along (after g) (Allows KeepsBond) c ds) (hleaks : (ds.foldl (after g) c).leaks = []) :
    (∀ p, p <+: ds → (p.foldl (after g) c).Safe g) ↔
      Along (after g) (fun c d => ¬ c.CutsShort g d) c ds :=
  ⟨hc.coherent.along_not_cutsShort hds, fun huncut _ =>
    hc.guarded.safe_of_prefix hds hleaks huncut⟩

/-- A pass creates and records an entity, fails to read it back, and leaves an object that is
deleted at once. -/
theorem orphan_of_failed_read_back :
    let outage : FailureCause := .remote (.api "GET" "/fake/e-1" 503 "down")
    let unread : Circumstances .team :=
      ⟨fun site => if site = .remoteGet then [.fail outage] else [], 0, 0⟩
    let ds : List (Deed .team) := [.insert Sample.team, .pass Sample.key .zero unread,
      .delete Sample.key .earliest]
    let c' := ds.foldl (after Sample.engine) Sample.start
    Along (after Sample.engine) (Allows KeepsBond) Sample.start ds ∧ c'.leaks = [] ∧
      c'.Orphans := by
  intro outage unread ds c'
  have hplain : unread.ArePlain := by
    intro site t ht
    simp only [unread] at ht
    split at ht
    · obtain rfl := List.mem_singleton.1 ht
      rfl
    · cases ht
  refine ⟨⟨⟨rfl, rfl⟩, ⟨hplain, by decide, by decide, by decide⟩, trivial, trivial⟩, by decide,
    ⟨Sample.key, 1, "e-1"⟩, by decide, by decide, by decide⟩

/-- An object is created and deleted in calm, and its entity goes with it. -/
theorem safe_of_calm_run :
    let ds : List (Deed .team) := [.insert Sample.team, .pass Sample.key .zero .calm,
      .delete Sample.key .earliest, .pass Sample.key .zero .calm]
    (ds.foldl (after Sample.engine) Sample.start).Safe Sample.engine := by
  intro ds
  have hds : Along (after Sample.engine) (Allows KeepsBond) Sample.start ds :=
    ⟨⟨rfl, rfl⟩, ⟨Circumstances.calm_arePlain, by decide, by decide, by decide⟩, trivial,
      ⟨Circumstances.calm_arePlain, by decide, by decide, by decide⟩, trivial⟩
  refine (safe_iff_not_cutsShort Sample.start_begins hds (by decide)).2 ?_ ds (List.prefix_refl ds)
  refine ⟨id, ?_, id, ?_, trivial⟩
  · intro hcut
    obtain ⟨f, hf⟩ := hcut.failed
    cases hf
  · intro hcut
    obtain ⟨f, hf⟩ := hcut.failed
    cases hf

end Chronicle

end ResourceSync
