import ResourceSync.Proofs.Convergence

/-! When a deleted object is let go. Two passes without a fault release it, unless an entity has to
be created for it first and its spec asks for none: then no pass ever does. -/
namespace ResourceSync

variable {k : Kind}

open World

namespace Engine
variable {g : Engine k} {r r' : Resource k}

/-- Nothing is recorded, so that every pass is to create an entity, and the spec asks for none that
can be made. -/
structure Strands (g : Engine k) (r : Resource k) : Prop where
  unrecorded : r.remoteId = none
  inScope : g.inScope r = true
  invalid : ∃ e, r.desiredBody = .error e

theorem Strands.lifecycle (h : g.Strands r) : g.lifecycle r = .pendingCreation :=
  lifecycle_eq_pendingCreation_iff.2 ⟨h.unrecorded, h.inScope⟩

theorem lifecycle_eq_of_isVersionOf (hversion : r'.IsVersionOf r)
    (hid : r'.remoteId = r.remoteId) : g.lifecycle r' = g.lifecycle r := by
  have hscope : g.inScope r' = g.inScope r := by rw [inScope, inScope, hversion.labelMap]
  rw [lifecycle, lifecycle, hid, hscope, hversion.isDeleting]

/-- What is due for a deleted object, if it is not stranded. -/
theorem due_of_not_strands (hdeleting : r.metadata.isDeleting = true) (h : ¬ g.Strands r) :
    g.lifecycle r = .pendingDeletion ∨
      g.lifecycle r = .pendingCreation ∧ ∃ b, r.desiredBody = .ok b := by
  by_cases hcreate : r.remoteId = none ∧ g.inScope r = true
  · refine Or.inr ⟨lifecycle_eq_pendingCreation_iff.2 hcreate, ?_⟩
    cases hb : r.desiredBody with
    | ok b => exact ⟨b, rfl⟩
    | error e => exact (h ⟨hcreate.1, hcreate.2, e, hb⟩).elim
  · refine Or.inl (lifecycle_eq_pendingDeletion_iff.2 ⟨hdeleting, ?_⟩)
    intro hnone
    simpa [hnone] using hcreate

end Engine

namespace World
variable {g : Engine k} {w : World k} {r : Resource k} {key : ObjectKey} {elapsed : Duration}

/-- The operator's finalizer is off the object, which is gone altogether if nobody else holds it. -/
def LetsGo (w : World k) (r : Resource k) : Prop :=
  (∀ r', w.store.get? r.key = some r' → r'.hasFinalizer k.finalizer = false) ∧
    (r.otherFinalizers k.finalizer = [] → w.store.get? r.key = none)

/-- Whatever is left under a key is due for deletion and without the operator's finalizer. -/
def Finished (g : Engine k) (key : ObjectKey) (w : World k) : Prop :=
  ∀ r, w.store.get? key = some r → r.key = key ∧ g.lifecycle r = .pendingDeletion ∧
    r.hasFinalizer k.finalizer = false

/-- A pass on a key without an object does nothing. -/
theorem pass_skips (hw : w.Calm) (hnone : w.store.get? key = none) (elapsed : Duration) :
    Ends (g.reconcile key elapsed) w (fun _ w' => w'.Calm ∧ w'.store = w.store)
      fun _ _ => False := by
  unfold Engine.reconcile
  simp only [ends_bind, ends_during]
  refine (calm_load hw).imp ?_ fun _ _ h => h
  rintro o w₁ ⟨hcalm, -, hs, rfl⟩
  simp only [hnone, ends_bind]
  exact ⟨hcalm.carried _ _, hs⟩

/-- A pass that is to delete takes the finalizer off, whatever the platform holds. -/
theorem pass_releases (hw : w.Calm) (hr : w.store.get? key = some r) (hkey : r.key = key)
    (due : g.lifecycle r = .pendingDeletion) (elapsed : Duration) :
    Ends (g.reconcile key elapsed) w
      (fun _ w' => w'.Calm ∧
        w'.store.get? = Function.update w.store.get? key (w.store.released r k.finalizer))
      fun _ _ => False := by
  subst hkey
  refine calm_reconcile hw hr (fun w' m h => ⟨h.1.carried _ _, h.2⟩) ?_
  intro w₁ hcalm hstep hs
  rw [Engine.transition, due]
  simp only [Engine.pendingDeletion, ends_bind, ends_during]
  refine (calm_delete hcalm).imp ?_ fun _ _ h => h
  rintro - w₂ ⟨hcalm₂, hs₂, -⟩
  have hstore : w₂.store = w.store := hs₂.trans hs
  refine (calm_removeFinalizer hcalm₂ (by rw [hstore, hr])).imp ?_ fun _ _ h => h
  rintro - w₃ ⟨hcalm₃, -, ho₃⟩
  rw [hstore] at ho₃
  exact ⟨hcalm₃.carried _ _, ho₃⟩

/-- A pass on a stranded object fails and changes no object. -/
theorem pass_fails_stranded (hw : w.Calm) (hr : w.store.get? key = some r) (h : g.Strands r)
    (elapsed : Duration) : Ends (g.reconcile key elapsed) w (fun _ _ => False)
      fun _ w' => w'.Calm ∧ w'.store = w.store := by
  refine calm_reconcile_fails hw hr (fun w' m es h => ⟨h.1.carried _ _, h.2⟩) ?_
  intro w₁ hcalm hstep hs
  obtain ⟨e, hinvalid⟩ := h.invalid
  rw [Engine.transition, h.lifecycle]
  simp only [Engine.pendingCreation, Resource.createEntity, Resource.body, hinvalid, ends_bind,
    ends_during, ends_throw]
  exact ⟨hcalm, hs⟩

/-- Where nothing is left to release, a pass changes no object. -/
theorem Finished.pass (h : w.Finished g key) (hw : w.Calm) (elapsed : Duration) :
    Ends (g.reconcile key elapsed) w
      (fun _ w' => w'.Calm ∧ w'.store.get? = w.store.get?) fun _ _ => False := by
  cases hr : w.store.get? key with
  | none => exact (pass_skips hw hr elapsed).imp (fun _ _ h => ⟨h.1, congrArg _ h.2⟩) fun _ _ h => h
  | some r =>
    obtain ⟨hkey, due, hfin⟩ := h r hr
    have hsame : w.store.released r k.finalizer = some r := by simp [Store.released, hfin]
    refine (pass_releases hw hr hkey due elapsed).imp ?_ fun _ _ h => h
    rintro - w' ⟨hcalm, ho⟩
    exact ⟨hcalm, by rw [ho, hsame, ← hr, Function.update_eq_self]⟩

/-- A pass that is to delete an object lets it go, and nothing is left to release. -/
theorem pass_lets_go (hw : w.Calm) (hr : w.store.get? key = some r) (hkey : r.key = key)
    (due : g.lifecycle r = .pendingDeletion) (hfin : r.hasFinalizer k.finalizer = true)
    (elapsed : Duration) :
    Ends (g.reconcile key elapsed) w
      (fun _ w' => w'.Calm ∧ w'.LetsGo r ∧ w'.Finished g key) fun _ _ => False := by
  have hdeleting := (Engine.lifecycle_eq_pendingDeletion_iff.1 due).1
  refine (pass_releases hw hr hkey due elapsed).imp ?_ fun _ _ h => h
  rintro - w' ⟨hcalm, ho⟩
  have hplace : w'.store.get? key = w.store.released r k.finalizer := by
    rw [ho, Function.update_self]
  subst hkey
  refine ⟨hcalm, ⟨?_, ?_⟩, ?_⟩
  · intro r' hr'
    exact (Store.released_eq_some (hplace.symm.trans hr')).2.2
  · intro hothers
    rw [hplace, Store.released_eq_none_iff]
    exact ⟨hfin, hdeleting, hothers⟩
  · intro r' hr'
    obtain ⟨hversion, hstatus, hfin'⟩ := Store.released_eq_some (hplace.symm.trans hr')
    have hid := Resource.remoteId_eq_of_status hstatus
    exact ⟨hversion.key, (Engine.lifecycle_eq_of_isVersionOf hversion hid).trans due, hfin'⟩

/-- A deleted object that waits for its entity is let go by the pass after the one that creates
it. -/
theorem creating_pass_prepares {b : k.Body} (hw : w.Calm) (hr : w.store.get? key = some r)
    (hkey : r.key = key) (hdeleting : r.metadata.isDeleting = true)
    (hfin : r.hasFinalizer k.finalizer = true) (hid : w.platform.nextId ≠ "")
    (due : g.lifecycle r = .pendingCreation) (hb : r.desiredBody = .ok b) (elapsed : Duration) :
    Ends (g.reconcile key elapsed) w
      (fun _ w' => w'.Calm ∧ ∃ r' : Resource k, w'.store.get? key = some r' ∧ r'.key = r.key ∧
        g.lifecycle r' = .pendingDeletion ∧ r'.metadata.finalizerList = r.metadata.finalizerList)
      fun _ _ => False := by
  refine (pass_creates hw hr hkey due hb elapsed).imp ?_ fun _ _ h => h
  rintro - w' ⟨hcalm, -, r', hversion, hstatus, hlist, ho⟩
  have hrecorded : r'.remoteId = some w.platform.nextId :=
    Resource.remoteId_of_observedStatus (e := Platform.newborn w.platform.nextId b) hid hstatus
  refine ⟨hcalm, r', by rw [ho, Function.update_self], hversion.key, ?_, ?_⟩
  · rw [Engine.lifecycle_eq_pendingDeletion_iff, hversion.isDeleting]
    exact ⟨hdeleting, fun hnone => absurd (hrecorded.symm.trans hnone) (by simp)⟩
  · rw [hlist, if_pos hfin]

theorem LetsGo.of_eq {w' : World k} (h : w.LetsGo r) (ho : w'.store.get? = w.store.get?) :
    w'.LetsGo r := by
  rw [LetsGo, ho]
  exact h

theorem LetsGo.of_finalizerList {r' : Resource k} (h : w.LetsGo r') (hkey : r'.key = r.key)
    (hlist : r'.metadata.finalizerList = r.metadata.finalizerList) : w.LetsGo r := by
  rw [LetsGo, Resource.otherFinalizers, hkey, hlist] at h
  exact h

/-- Two passes let a deleted object go, if it is not stranded. -/
theorem two_passes_let_go {d₁ d₂ : Duration} (hw : w.Calm) (hr : w.store.get? key = some r)
    (hkey : r.key = key) (hdeleting : r.metadata.isDeleting = true)
    (hfin : r.hasFinalizer k.finalizer = true) (hid : w.platform.nextId ≠ "")
    (h : ¬ g.Strands r) : (passes g key w [d₁, d₂]).LetsGo r := by
  change LetsGo (after (g.reconcile key d₂) (after (g.reconcile key d₁) w)) r
  rcases Engine.due_of_not_strands hdeleting h with due | ⟨due, b, hb⟩
  -- the first pass lets it go, and the second finds nothing to release
  · obtain ⟨_, w₁, hx₁, hcalm₁, hgo, hfinished⟩ :=
      ok_of_ends (pass_lets_go hw hr hkey due hfin d₁)
    obtain ⟨_, w₂, hx₂, -, ho₂⟩ := ok_of_ends (hfinished.pass hcalm₁ d₂)
    rw [after_of_ok hx₁, after_of_ok hx₂]
    exact hgo.of_eq ho₂
  -- the first pass only creates the entity, and the second lets the object go
  · obtain ⟨_, w₁, hx₁, hcalm₁, r₁, hr₁, hkey₁, due₁, hlist⟩ :=
      ok_of_ends (creating_pass_prepares hw hr hkey hdeleting hfin hid due hb d₁)
    have hfin₁ : r₁.hasFinalizer k.finalizer = true := by
      rw [Resource.hasFinalizer, hlist]
      exact hfin
    obtain ⟨_, w₂, hx₂, -, hgo, -⟩ :=
      ok_of_ends (pass_lets_go hcalm₁ hr₁ (hkey₁.trans hkey) due₁ hfin₁ d₂)
    rw [after_of_ok hx₁, after_of_ok hx₂]
    exact hgo.of_finalizerList hkey₁ hlist

/-- However many passes follow, a stranded object stays as it is. -/
theorem stranded_stays (hw : w.Calm) (hr : w.store.get? key = some r) (h : g.Strands r)
    (spans : List Duration) : (passes g key w spans).store = w.store := by
  induction spans generalizing w with
  | nil => rfl
  | cons elapsed spans ih =>
    have hends := pass_fails_stranded hw hr h elapsed
    cases hx : g.reconcile key elapsed w with
    | ok _ _ => exact (hends.of_ok hx).elim
    | error f w₁ =>
      obtain ⟨hcalm, hs⟩ := hends.of_error hx
      simp only [passes, List.foldl_cons, after_of_error hx]
      exact (ih hcalm (hs ▸ hr)).trans hs

end World

namespace Chronicle
variable {g : Engine k} {c : Chronicle k} {d : Deed k} {ds : List (Deed k)} {key : ObjectKey}
  {r : Resource k}

/-- Users never touch a status, and nobody else acts during a pass; its calls may fail in any way. -/
def Permits (c : Chronicle k) : Deed k → Prop
  | .insert r => r.status = none ∧ c.world.store.get? r.placed.key = none
  | .edit key r' => r'.key = key ∧ ∃ r, c.world.store.get? key = some r ∧ r'.status = r.status
  | .pass _ _ circumstances => circumstances.AreOwn
  | .delete .. | .removeEntity _ | .editEntity .. => True

theorem Permits.placed (h : c.Permits d) (hs : c.world.store.Placed) :
    (c.after g d).world.store.Placed := by
  cases d with
  | insert r => exact hs.insert r
  | edit key r => exact hs.put h.1
  | delete key now => exact hs.delete key now
  | removeEntity id => exact hs
  | editEntity id b => exact hs
  | pass key elapsed circumstances =>
    exact (World.after_reconcile Store.placed_stable g key elapsed (h.under c.world) hs).2

/-- The world that a run leaves, once every call goes through. -/
def calmed (g : Engine k) (c : Chronicle k) (ds : List (Deed k)) : World k :=
  (ds.foldl (Chronicle.after g) c).world.under .calm

theorem calmed_calm (g : Engine k) (c : Chronicle k) (ds : List (Deed k)) :
    (calmed g c ds).Calm := ⟨fun _ _ h => (List.not_mem_nil h).elim, rfl, rfl⟩

theorem Begins.calmed_placed (hc : c.Begins) (hrun : Along (Chronicle.after g) Permits c ds) :
    (calmed g c ds).store.Placed := by
  have hplaced : (ds.foldl (Chronicle.after g) c).world.store.Placed := by
    refine hrun.invariant (I := fun c => c.world.store.Placed) (fun _ _ h => h.placed) ?_
    intro key r hr
    rw [hc.objects] at hr
    cases hr
  exact hplaced

/-- Once nothing fails any more, two passes let an object go that is marked for deletion and has the
finalizer, exactly if it is not stranded; a stranded one stays, however many passes follow. -/
theorem deleted_object_is_let_go_iff (hc : c.Begins)
    (hrun : Along (Chronicle.after g) Permits c ds)
    (hr : (calmed g c ds).store.get? key = some r) (hdeleting : r.metadata.isDeleting = true)
    (hfin : r.hasFinalizer k.finalizer = true) (hid : (calmed g c ds).platform.nextId ≠ "")
    (d₁ d₂ : Duration) :
    ((World.passes g key (calmed g c ds) [d₁, d₂]).LetsGo r ↔ ¬ g.Strands r) ∧
      (g.Strands r → ∀ spans,
        (World.passes g key (calmed g c ds) spans).store.get? key = some r) := by
  have hw := calmed_calm g c ds
  have hkey : r.key = key := hc.calmed_placed hrun key r hr
  have hstays (h : g.Strands r) (spans : List Duration) :
      (World.passes g key (calmed g c ds) spans).store.get? key = some r := by
    rw [World.stranded_stays hw hr h, hr]
  refine ⟨⟨?_, ?_⟩, hstays⟩
  · intro hgo h
    have hreleased := hgo.1 r (by rw [hkey, hstays h])
    rw [hfin] at hreleased
    cases hreleased
  · intro h
    exact World.two_passes_let_go hw hr hkey hdeleting hfin hid h

/-- A team whose entity was lost and that was then deleted is gone after two passes: the first one
creates an entity for it again. -/
theorem lost_team_is_let_go :
    let ds : List (Deed .team) :=
      [.insert Sample.team, .pass Sample.key .zero .calm, .removeEntity "e-1",
        .pass Sample.key .zero .calm, .delete Sample.key .earliest]
    let w := calmed Sample.engine Sample.start ds
    ∃ r, w.store.get? Sample.key = some r ∧ r.metadata.isDeleting = true ∧
      Sample.engine.lifecycle r = .pendingCreation ∧
      (World.passes Sample.engine Sample.key w [.zero, .zero]).LetsGo r := by
  intro ds w
  have hcalm : (Circumstances.calm (k := .team)).AreOwn := Circumstances.calm_arePlain.areOwn
  have hrun : Along (Chronicle.after Sample.engine) Permits Sample.start ds :=
    ⟨⟨rfl, rfl⟩, hcalm, trivial, hcalm, trivial, trivial⟩
  have hall : (w.store.get? Sample.key).any (fun r => r.metadata.isDeleting &&
      r.hasFinalizer Kind.team.finalizer && Sample.engine.lifecycle r = .pendingCreation &&
      r.desiredBody.toBool) = true := by decide +kernel
  obtain ⟨r, hr, hmarked⟩ := (Option.any_eq_true _ _).1 hall
  simp only [Bool.and_eq_true, decide_eq_true_eq] at hmarked
  obtain ⟨⟨⟨hdeleting, hfin⟩, due⟩, hvalid⟩ := hmarked
  have hstrands : ¬ Sample.engine.Strands r := by
    intro h
    obtain ⟨e, he⟩ := h.invalid
    rw [he] at hvalid
    cases hvalid
  have hiff := deleted_object_is_let_go_iff Sample.start_begins hrun hr hdeleting hfin
    (by decide +kernel) .zero .zero
  exact ⟨r, hr, hdeleting, due, hiff.1.2 hstrands⟩

end Chronicle

/-- The entity of a team is lost, which a pass notices; then its quota becomes one that no team can
have, and the team is deleted. -/
def Sample.stranding : List (Deed .team) :=
  [.insert Sample.team, .pass Sample.key .zero .calm, .removeEntity "e-1",
    .pass Sample.key .zero .calm,
    .edit Sample.key
      { Sample.team with
        metadata :=
          { Sample.team.metadata with
            inNamespace := some "default"
            finalizers := some [Kind.team.finalizer] }
        spec := (⟨"alpha", none, [], some (.ofNatBits 0xBFF0000000000000)⟩ : TeamSpec) },
    .delete Sample.key .earliest]

/-- Two passes do not let that team go. -/
theorem Chronicle.team_without_quota_is_kept :
    let w := Chronicle.calmed Sample.engine Sample.start Sample.stranding
    Sample.start.Begins ∧
      Along (Chronicle.after Sample.engine) Permits Sample.start Sample.stranding ∧
      w.platform.nextId ≠ "" ∧
      ∃ r, w.store.get? Sample.key = some r ∧ r.metadata.isDeleting = true ∧
        r.hasFinalizer Kind.team.finalizer = true ∧
        ¬ (World.passes Sample.engine Sample.key w [.zero, .zero]).LetsGo r := by
  intro w
  have hcalm : (Circumstances.calm (k := .team)).AreOwn := Circumstances.calm_arePlain.areOwn
  have hrun : Along (Chronicle.after Sample.engine) Permits Sample.start Sample.stranding := by
    exact ⟨⟨rfl, rfl⟩, hcalm, trivial, hcalm, ⟨rfl, _, rfl, rfl⟩, trivial, trivial⟩
  have hall : (w.store.get? Sample.key).any (fun r => r.metadata.isDeleting &&
      r.hasFinalizer Kind.team.finalizer) = true := by decide +kernel
  obtain ⟨r, hr, hmarked⟩ := (Option.any_eq_true _ _).1 hall
  obtain ⟨hdeleting, hfin⟩ := Bool.and_eq_true_iff.1 hmarked
  have hkept : (((World.passes Sample.engine Sample.key w [.zero, .zero]).store.get?
      Sample.key).any fun r => r.hasFinalizer Kind.team.finalizer) = true := by decide +kernel
  refine ⟨Sample.start_begins, hrun, by decide +kernel, r, hr, hdeleting, hfin, ?_⟩
  intro hgo
  obtain ⟨r', hr', hfin'⟩ := (Option.any_eq_true _ _).1 hkept
  have hkey := Sample.start_begins.calmed_placed hrun Sample.key r hr
  rw [hgo.1 r' (by rw [hkey, hr'])] at hfin'
  cases hfin'

end ResourceSync
