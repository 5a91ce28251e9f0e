import ResourceSync.Proofs.Gauge
import ResourceSync.Proofs.Orphan
import ResourceSync.Proofs.Stranding

/-! When the series of the resources can go wrong in a run: exactly when a user's deletion takes an
object away at once whose resource stands. No later pass notices that. -/
namespace ResourceSync

variable {k : Kind}

open World

namespace Platform
variable {p : Platform k}

/-- No identifier to come is empty. -/
def Named (p : Platform k) : Prop := ∀ id ∈ p.nextIds, id ≠ ""

theorem Named.nextId_ne (h : p.Named) : p.nextId ≠ "" := by
  unfold nextId
  cases hids : p.nextIds with
  | nil =>
    intro hempty
    have hlength := congrArg String.length hempty
    simp [String.length_append] at hlength
  | cons id ids =>
    have hid : id ∈ p.nextIds := by rw [hids]; exact List.mem_cons_self
    exact h id hid

theorem named_stable : Platform.Stable (Named (k := k)) where
  create p b h := by
    unfold create attempt takeId
    dsimp only
    split
    · cases hids : p.nextIds with
      | nil => exact fun id hid => (List.not_mem_nil hid).elim
      | cons id ids =>
        intro id' hid'
        exact h id' (hids ▸ List.mem_cons_of_mem id hid')
    · exact h
  get p id h := by
    unfold get attempt
    dsimp only
    split
    · split <;> exact h
    · exact h
  update p id b h := by
    unfold update attempt
    dsimp only
    split
    · split <;> exact h
    · exact h
  delete p id h := by
    unfold delete attempt
    dsimp only
    split
    · split <;> exact h
    · exact h

end Platform

namespace World
variable {w : World k} {key : ObjectKey}

/-- Of the resource of a key there is a series if and only if its object records an entity that the
platform holds; then it is one, under the type of the object's spec, with value one. -/
def Truthful (w : World k) (key : ObjectKey) : Prop :=
  ∀ type v, w.metrics.resources.get? (Metrics.labels k.name key ++ [type]) = some v ↔
    v = 1 ∧ w.InStep key type

theorem truthful_iff_tells (h : w.metrics.Consistent k) : w.Truthful key ↔ w.Tells key := by
  have hseries (type : String) (v : Nat) :
      w.metrics.resources.get? (Metrics.labels k.name key ++ [type]) = some v ↔
        v = 1 ∧ w.standing key = some type := by
    rw [h key type]
    change (if w.standing key = some type then some 1 else none) = some v ↔ _
    split <;> simp_all [eq_comm]
  constructor
  · intro htrue type
    have htype := htrue type 1
    rw [hseries] at htype
    simpa only [true_and] using htype
  · intro htells type v
    rw [hseries, htells type]

end World

/-- A pass keeps the series consistent. -/
theorem World.consistent_reconcile (g : Engine k) (key : ObjectKey) (elapsed : Duration) :
    Carries (fun w => w.metrics.Consistent k) (g.reconcile key elapsed) := by
  have hcalls : CarriedByCalls fun w : World k => w.metrics.Consistent k :=
    carriedByCalls_metrics (fun _ o h => h.note (.operation o))
      (fun _ r h => h.stands r.key (some r.typeLabel)) fun _ r h => h.stands r.key none
  exact hcalls.reconcile g key elapsed fun outcome _ h => h.note (.ended outcome elapsed)

/-- A pass on a key without an object succeeds and leaves what stands there. -/
theorem World.pass_leaves {g : Engine k} {w : World k} {key : ObjectKey} (hw : w.Calm)
    (hnone : w.store.get? key = none) (elapsed : Duration) :
    Ends (g.reconcile key elapsed) w (fun _ w' => w'.store = w.store ∧ w'.standing = w.standing)
      fun _ _ => False := by
  unfold Engine.reconcile
  simp only [ends_bind, ends_during]
  refine (calm_load hw).imp ?_ fun _ _ h => h
  rintro o w₁ ⟨-, hstep, hs, rfl⟩
  simp only [hnone, ends_bind]
  have hs₁ : w₁.standing = w.standing := congrArg (Metrics.standing · k) hstep.metrics
  exact ⟨hs, hs₁⟩

namespace Chronicle
variable {g : Engine k} {c c' : Chronicle k} {d : Deed k} {key : ObjectKey}

/-- Users leave status, name and this kind's finalizer of an object alone and put new objects under
free keys; calls may fail, but never report an entity missing. -/
def Respects (c : Chronicle k) : Deed k → Prop
  | .insert r => r.status = none ∧ c.world.store.get? r.placed.key = none
  | .edit key r' => ∃ r, c.world.store.get? key = some r ∧ KeepsBond r r'
  | .pass _ _ circumstances => circumstances.ArePlain
  | .delete .. | .removeEntity _ | .editEntity .. => True

/-- A deletion takes away an object whose resource stands. -/
def Abandons (c : Chronicle k) : Deed k → Prop
  | .delete key _ => c.world.standing key ≠ none ∧
      ∃ r, c.world.store.get? key = some r ∧ r.metadata.finalizerList = []
  | _ => False

/-- After every pass that succeeds now, whatever befalls it, the series of its key's resource are
right. -/
def Honest (g : Engine k) (c : Chronicle k) : Prop :=
  ∀ key elapsed circumstances, circumstances.ArePlain → ∀ next w',
    g.reconcile key elapsed (c.world.under circumstances) = .ok next w' → w'.Truthful key

/-- Objects, entities and series stand where they belong. -/
structure Tidy (c : Chronicle k) : Prop where
  placed : c.world.store.Placed
  wellKeyed : c.world.platform.WellKeyed
  named : c.world.platform.Named
  consistent : c.world.metrics.Consistent k

theorem Tidy.steady {circumstances : Circumstances k} (h : c.Tidy)
    (hc : circumstances.ArePlain) : (c.world.under circumstances).Steady where
  undisturbed := hc.under c.world
  placed := h.placed
  wellKeyed := h.wellKeyed
  named := h.named.nextId_ne

theorem Tidy.after (h : c.Tidy) (hd : c.Respects d) : (c.after g d).Tidy := by
  obtain ⟨hplaced, hkeyed, hnamed, hconsistent⟩ := h
  cases d with
  | insert r => exact ⟨hplaced.insert r, hkeyed, hnamed, hconsistent⟩
  | edit key r' =>
    obtain ⟨r, hr, -, hkey, -⟩ := hd
    exact ⟨hplaced.put (hkey.trans (hplaced key r hr)), hkeyed, hnamed, hconsistent⟩
  | delete key now => exact ⟨hplaced.delete key now, hkeyed, hnamed, hconsistent⟩
  | removeEntity id => exact ⟨hplaced, hkeyed.remove id, hnamed, hconsistent⟩
  | editEntity id b => exact ⟨hplaced, hkeyed.setBody id b, hnamed, hconsistent⟩
  | pass key elapsed circumstances =>
    have hown : circumstances.AreOwn := hd.areOwn
    obtain ⟨hplaced', hkeyed'⟩ := passed_stable g key elapsed Store.placed_stable
      Platform.wellKeyed_stable hown (w := c.world) hplaced hkeyed
    obtain ⟨-, hnamed'⟩ := passed_stable g key elapsed Store.placed_stable
      Platform.named_stable hown (w := c.world) hplaced hnamed
    exact ⟨hplaced', hkeyed', hnamed',
      Ends.after (consistent_reconcile g key elapsed (c.world.under circumstances) hconsistent)⟩

/-- Where every resource that stands is backed, passes that succeed leave the series right. -/
theorem Tidy.honest (h : c.Tidy) (hb : ∀ key, c.world.Backed key) : c.Honest g := by
  intro key elapsed circumstances hc next w' hx
  have hconsistent : w'.metrics.Consistent k :=
    (consistent_reconcile g key elapsed (c.world.under circumstances) h.consistent).of_ok hx
  rw [truthful_iff_tells hconsistent]
  exact (reconcile_tells g (h.steady hc) (hb key) elapsed).of_ok hx

/-- Where a deletion abandons a resource, the next pass on it succeeds and leaves its series. -/
theorem Tidy.not_honest (h : c.Tidy) (hd : c.Abandons d) : ¬ (c.after g d).Honest g := by
  cases d with
  | delete key now =>
    obtain ⟨hstands, r, hr, hempty⟩ := hd
    intro hhonest
    let w := (c.after g (.delete key now)).world.under .calm
    have hnone : w.store.get? key = none := by
      rcases c.world.store.delete_cases key now with ho | ⟨r', hr', ⟨-, ho⟩ | ⟨hne, -⟩⟩
      · have hgone : (c.world.store.delete key now).get? key = none := by
          simp only [Store.delete, hr, hempty, List.isEmpty_nil, if_true]
          rw [Store.get?_erase, Function.update_self]
        exact hgone
      · exact (congrFun ho key).trans (Function.update_self _ _ _)
      · obtain rfl := Option.some.inj (hr.symm.trans hr')
        exact absurd hempty hne
    have hw : w.Calm := ⟨fun _ _ h => (List.not_mem_nil h).elim, rfl, rfl⟩
    obtain ⟨next, w', hx, hs, hstanding⟩ := ok_of_ends (pass_leaves (g := g) hw hnone .zero)
    have htrue := hhonest key .zero .calm Circumstances.calm_arePlain next w' hx
    have hconsistent : w'.metrics.Consistent k :=
      (consistent_reconcile g key .zero w h.consistent).of_ok hx
    obtain ⟨type, htype⟩ := Option.ne_none_iff_exists'.1 hstands
    have hstill : w'.standing key = some type := (congrFun hstanding key).trans htype
    obtain ⟨r', -, hr', -⟩ := ((truthful_iff_tells hconsistent).1 htrue type).1 hstill
    rw [hs, hnone] at hr'
    cases hr'
  | insert | edit | removeEntity | editEntity | pass => exact hd.elim

/-- One step of a run: resources that stand stay backed, unless one is abandoned. -/
theorem Tidy.backed_after (h : c.Tidy) (hb : ∀ key, c.world.Backed key) (hd : c.Respects d)
    (hkept : ¬ c.Abandons d) (key : ObjectKey) : (c.after g d).world.Backed key := by
  -- users note nothing, and an object that records an identifier keeps it
  have hedited {key' : ObjectKey} {r r' : Resource k} {s : Store k}
      (hr : c.world.store.get? key' = some r)
      (ho : s.get? = Function.update c.world.store.get? key' (some r'))
      (hid : r'.remoteId = r.remoteId) :
      Backed { c.world with store := s } key := by
    refine (hb key).of_eq ?_ rfl
    rw [idAt_update (w := c.world) ho, Option.map_some, hid, ← idAt_of_get? hr,
      Function.update_eq_self]
  cases d with
  | insert r =>
    have ho : (c.world.store.insert r).get? = _ := Store.get?_insert
    by_cases heq : key = r.placed.key
    · have hnone : c.world.standing key = none := by
        refine (hb key).standing_eq_none fun id hid => ?_
        rw [heq, idAt, hd.2] at hid
        cases hid
      exact backed_of_none hnone
    · refine (hb key).of_eq ?_ rfl
      exact (congrFun (idAt_update (w := c.world) ho) key).trans (Function.update_of_ne heq _ _)
  | edit key' r' =>
    obtain ⟨r, hr, hstatus, -, -⟩ := hd
    exact hedited hr Store.get?_put (Resource.remoteId_eq_of_status hstatus)
  | delete key' now =>
    rcases c.world.store.delete_cases key' now with ho | ⟨r, hr, ⟨hempty, ho⟩ | ⟨-, ho⟩⟩
    · exact (hb key).of_eq (congrFun (idAt_eq_of_get? ho) key) rfl
    · by_cases heq : key = key'
      · have hnone : c.world.standing key = none := by
          by_contra hstands
          exact hkept ⟨heq ▸ hstands, r, hr, hempty⟩
        exact backed_of_none hnone
      · refine (hb key).of_eq ?_ rfl
        exact (congrFun (idAt_update (w := c.world) ho) key).trans (Function.update_of_ne heq _ _)
    · exact hedited hr ho rfl
  | removeEntity id | editEntity id b => exact (hb key).of_eq rfl rfl
  | pass key' elapsed circumstances =>
    have hw : (c.world.under circumstances).Steady := h.steady hd
    by_cases heq : key = key'
    · subst heq
      exact Ends.after (P := (World.Backed · key))
        ((reconcile_tells g hw (hb key) elapsed).imp (fun _ _ htells => htells.backed)
          fun _ _ hbacked => hbacked)
    · have helsewhere : (c.world.passed g key' elapsed circumstances).store.get? key =
          c.world.store.get? key := by
        refine Ends.after (P := fun w' => w'.store.get? key = c.world.store.get? key) ?_
        exact (reconcile_effect g key' elapsed hw.undisturbed hw.placed.writesBack).imp
          (fun _ _ heffect => heffect.get?_elsewhere hw.placed heq)
          fun _ _ heffect => heffect.get?_elsewhere hw.placed heq
      refine (hb key).of_eq ?_ (standing_elsewhere g hw heq elapsed)
      exact congrArg (Option.map Resource.remoteId) helsewhere

theorem Tidy.measured {m : Metrics} (h : c.Tidy) (hm : c.world.metrics.SameOf k m) :
    (c.measured m).Tidy := ⟨h.placed, h.wellKeyed, h.named, h.consistent.sameOf hm⟩

end Chronicle

namespace Realm
variable {engines : (k : Kind) → Engine k} {R : Realm} {ds : List ((k : Kind) × Deed k)}

/-- Where a run starts: without objects and metrics, and with identifiers to come. -/
structure Opens (R : Realm) : Prop where
  metrics : R.metrics = .empty
  begins : ∀ k, (R.of k).Begins
  named : ∀ k, (R.of k).world.platform.Named

/-- After every pass that succeeds now the series of its key's resource are right. -/
def Honest (engines : (k : Kind) → Engine k) (R : Realm) : Prop :=
  ∀ k, (R.of k).Honest (engines k)

theorem Opens.tidy (h : R.Opens) (k : Kind) : (R.of k).Tidy where
  placed key r hr := by
    rw [(h.begins k).objects] at hr
    cases hr
  wellKeyed := (h.begins k).wellKeyed
  named := h.named k
  consistent := by
    have hempty : (R.of k).world.metrics = .empty := h.metrics
    rw [hempty]
    exact Metrics.consistent_empty k

theorem Opens.backed (h : R.Opens) (k : Kind) (key : ObjectKey) : (R.of k).world.Backed key := by
  refine World.backed_of_none ?_
  have hempty : (R.of k).world.metrics = .empty := h.metrics
  rw [World.standing, hempty]
  rfl

theorem tidy_after {d : (k : Kind) × Deed k} (h : ∀ k, (R.of k).Tidy)
    (hd : (R.of d.1).Respects d.2) (k : Kind) : ((R.after engines d).of k).Tidy := by
  rcases @of_after_cases engines k R d with ⟨d', rfl, heq⟩ | ⟨-, m, hsame, heq⟩
  · exact heq ▸ (h k).after hd
  · exact heq ▸ (h k).measured hsame

theorem backed_after {d : (k : Kind) × Deed k} (h : ∀ k, (R.of k).Tidy)
    (hb : ∀ k key, (R.of k).world.Backed key) (hd : (R.of d.1).Respects d.2)
    (hkept : ¬ (R.of d.1).Abandons d.2) (k : Kind) (key : ObjectKey) :
    ((R.after engines d).of k).world.Backed key := by
  rcases @of_after_cases engines k R d with ⟨d', rfl, heq⟩ | ⟨-, m, hsame, heq⟩
  · exact heq ▸ (h k).backed_after (hb k) hd hkept key
  · exact heq ▸ (hb k key).of_eq rfl (hsame.types [key.name, key.inNamespace])

theorem along_not_abandons (h : ∀ k, (R.of k).Tidy)
    (hds : Along (after engines) (fun R d => (R.of d.1).Respects d.2) R ds)
    (hhonest : ∀ p, p <+: ds → (p.foldl (after engines) R).Honest engines) :
    Along (after engines) (fun R d => ¬ (R.of d.1).Abandons d.2) R ds := by
  induction ds generalizing R with
  | nil => trivial
  | cons d ds ih =>
    obtain ⟨hd, hds⟩ := hds
    refine ⟨?_, ih (tidy_after h hd) hds fun p hp =>
      hhonest (d :: p) (List.cons_prefix_cons.2 ⟨rfl, hp⟩)⟩
    intro habandons
    obtain ⟨k, d⟩ := d
    have hnext := hhonest [⟨k, d⟩] (List.cons_prefix_cons.2 ⟨rfl, List.nil_prefix⟩) k
    rw [List.foldl_cons, List.foldl_nil, of_after_self] at hnext
    exact (h k).not_honest habandons hnext

theorem honest_of_prefix {p : List ((k : Kind) × Deed k)} (h : ∀ k, (R.of k).Tidy)
    (hb : ∀ k key, (R.of k).world.Backed key)
    (hds : Along (after engines) (fun R d => (R.of d.1).Respects d.2) R ds)
    (hkept : Along (after engines) (fun R d => ¬ (R.of d.1).Abandons d.2) R ds) (hp : p <+: ds) :
    (p.foldl (after engines) R).Honest engines := by
  induction p generalizing R ds with
  | nil => exact fun k => (h k).honest (hb k)
  | cons d p ih =>
    obtain ⟨rest, rfl⟩ := hp
    exact ih (tidy_after h hds.1) (backed_after h hb hds.1 hkept.1) hds.2 hkept.2
      (List.prefix_append p rest)

/-- At every moment of a run the series are right after each pass that succeeds, whatever calls
failed before it and in it, exactly if no deletion in the run takes an object away at once whose
resource stands. -/
theorem honest_iff_not_abandons (hR : R.Opens)
    (hds : Along (after engines) (fun R d => (R.of d.1).Respects d.2) R ds) :
    (∀ p, p <+: ds → (p.foldl (after engines) R).Honest engines) ↔
      Along (after engines) (fun R d => ¬ (R.of d.1).Abandons d.2) R ds :=
  ⟨along_not_abandons hR.tidy hds, fun hkept _ =>
    honest_of_prefix hR.tidy hR.backed hds hkept⟩

theorem sample_opens : Sample.realm.Opens := by
  refine ⟨rfl, fun k => ⟨fun _ => rfl, (fun _ _ h => by cases h), rfl, rfl⟩, fun k id hid => ?_⟩
  have hids : id = "e-1" ∨ id = "e-2" := by
    simpa [of, Chronicle.measured, Sample.realm, World.empty, Platform.ofIds] using hid
  rcases hids with rfl | rfl <;> decide

/-- A team whose first pass fails stays without the finalizer, loses its entity, and gets another
one with the finalizer, before it is deleted. -/
theorem recreated_team_is_told_of :
    let unguarded : Circumstances .team := .once .patchFinalizers (.fail (.other "down"))
    let ds : List ((k : Kind) × Deed k) := [⟨.team, .insert Sample.team⟩,
      ⟨.team, .pass Sample.key .zero unguarded⟩, ⟨.team, .removeEntity "e-1"⟩,
      ⟨.team, .pass Sample.key .zero .calm⟩, ⟨.apiKey, .pass Sample.key .zero .calm⟩,
      ⟨.team, .pass Sample.key .zero .calm⟩, ⟨.team, .delete Sample.key .earliest⟩]
    let R' := ds.foldl (after Sample.engines) Sample.realm
    R'.Honest Sample.engines ∧ (R'.of .team).world.standing Sample.key = some "" := by
  intro unguarded ds R'
  have hunguarded : unguarded.ArePlain := Circumstances.once_arePlain rfl
  have hcalm {k : Kind} : (Circumstances.calm (k := k)).ArePlain := Circumstances.calm_arePlain
  have hds : Along (after Sample.engines) (fun R d => (R.of d.1).Respects d.2) Sample.realm ds :=
    ⟨⟨rfl, rfl⟩, hunguarded, trivial, hcalm, hcalm, hcalm, trivial, trivial⟩
  let guarded := (ds.take 6).foldl (after Sample.engines) Sample.realm
  have hguarded : ((guarded.of .team).world.store.get? Sample.key).all
      (fun r => r.hasFinalizer Kind.team.finalizer) = true := by decide +kernel
  have hkept : Along (after Sample.engines) (fun R d => ¬ (R.of d.1).Abandons d.2) Sample.realm
      ds := by
    refine ⟨id, id, id, id, id, id, ?_, trivial⟩
    rintro ⟨-, r, hr, hempty⟩
    have hfin := (Option.all_eq_true _ _).1 hguarded r hr
    simp [Resource.hasFinalizer, hempty] at hfin
  exact ⟨(honest_iff_not_abandons sample_opens hds).2 hkept ds (List.prefix_refl ds),
    by decide +kernel⟩

/-- A team whose first pass fails has no finalizer and is gone with its deletion; the next pass
succeeds, and the team's series stays. -/
theorem deleted_team_is_told_of :
    let unguarded : Circumstances .team := .once .patchFinalizers (.fail (.other "down"))
    let ds : List ((k : Kind) × Deed k) := [⟨.team, .insert Sample.team⟩,
      ⟨.team, .pass Sample.key .zero unguarded⟩, ⟨.team, .delete Sample.key .earliest⟩]
    let w := ((ds.foldl (after Sample.engines) Sample.realm).of .team).world.under .calm
    let w' := World.after ((Sample.engines .team).reconcile Sample.key .zero) w
    Sample.realm.Opens ∧
      Along (after Sample.engines) (fun R d => (R.of d.1).Respects d.2) Sample.realm ds ∧
      (∃ next, (Sample.engines .team).reconcile Sample.key .zero w = .ok next w') ∧
      w'.store.get? Sample.key = none ∧ ¬ w'.Truthful Sample.key := by
  intro unguarded ds w w'
  have hunguarded : unguarded.ArePlain := Circumstances.once_arePlain rfl
  have hgone : w.store.get? Sample.key = none := by decide +kernel
  have hcalm : w.Calm := ⟨fun _ _ h => (List.not_mem_nil h).elim, rfl, rfl⟩
  obtain ⟨next, w₁, hx, hs, -⟩ := ok_of_ends
    (World.pass_leaves (g := Sample.engines .team) hcalm hgone .zero)
  have hw' : w' = w₁ := World.after_of_ok hx
  have hnone : w'.store.get? Sample.key = none := by rw [hw', hs, hgone]
  refine ⟨sample_opens, ⟨⟨rfl, rfl⟩, hunguarded, trivial, trivial⟩, ⟨next, hw' ▸ hx⟩, hnone, ?_⟩
  intro htrue
  have hseries : w'.metrics.resources.get? (Metrics.labels Kind.team.name Sample.key ++ [""]) =
      some 1 := by decide +kernel
  obtain ⟨-, r, -, hr, -⟩ := (htrue "" 1).1 hseries
  rw [hnone] at hr
  cases hr

end Realm

end ResourceSync
