import ResourceSync.Proofs.Calm
import ResourceSync.Proofs.Fleet

/-! When an engine disturbs an object outside its selector: it takes every recorded identifier for
one of its own, so any pass on the object of another engine may tear down or release what that
engine has made. -/
namespace ResourceSync

variable {k : Kind}

open World

/-- No labels satisfy both selectors. -/
def Selector.Disjoint (s t : Selector) : Prop :=
  ∀ labels, s.accepts labels = true → t.accepts labels = false

/-- Every call goes through. -/
structure Circumstances.AreCalm (c : Circumstances k) : Prop where
  plan : ∀ site, ∀ t ∈ c.plan site, t = .pass
  store : c.storeOutage = 0
  platform : c.platformOutage = 0

theorem Circumstances.AreCalm.under {c : Circumstances k} (h : c.AreCalm) (w : World k) :
    (w.under c).Calm := ⟨h.plan, h.store, h.platform⟩

/-- A pass on an object outside the selector deletes what is recorded, and releases a marked object,
whoever recorded it. -/
theorem World.calm_teardown {g : Engine k} {w : World k} {key : ObjectKey} {r : Resource k}
    {id : String} (hw : w.Calm) (hr : w.store.get? key = some r) (hkey : r.key = key)
    (hscope : g.inScope r = false) (hid : r.remoteId = some id) (elapsed : Duration) :
    Ends (g.reconcile key elapsed) w
      (fun _ w' => w'.platform.entity? id = none ∧ (r.metadata.isDeleting = true →
        ∀ r', w'.store.get? key = some r' → r'.hasFinalizer k.finalizer = false))
      (fun _ _ => False) := by
  subst hkey
  refine calm_reconcile hw hr (fun _ _ h => h) ?_
  intro w₁ hcalm hstep hs
  cases hdeleting : r.metadata.isDeleting with
  | true =>
    rw [Engine.transition, Engine.lifecycle_eq_pendingDeletion_iff.2 ⟨hdeleting, by simp [hid]⟩]
    simp only [Engine.pendingDeletion, ends_bind, ends_during]
    refine (calm_delete hcalm).imp ?_ fun _ _ h => h
    rintro - w₂ ⟨hcalm₂, hs₂, he₂⟩
    have hr₂ : w₂.store.get? r.key = some r := by rw [hs₂, hs, hr]
    refine (calm_removeFinalizer hcalm₂ hr₂).imp ?_ fun _ _ h => h
    rintro - w₃ ⟨-, hp₃, ho₃⟩
    refine ⟨?_, ?_⟩
    · change w₃.platform.entity? id = none
      rw [hp₃, he₂, if_pos hid]
    · intro _ r' hr'
      rw [show w₃.store.get? r.key = _ from congrFun ho₃ r.key, Function.update_self] at hr'
      exact (Store.released_eq_some hr').2.2
  | false =>
    rw [Engine.transition, Engine.lifecycle_eq_outOfScope_iff.2 ⟨hdeleting, hscope⟩]
    simp only [Engine.outOfScope, hid, Option.isSome_some, if_true, ends_bind, ends_during]
    refine (calm_delete hcalm).imp ?_ fun _ _ h => h
    rintro - w₂ ⟨-, -, he₂⟩
    exact ⟨(he₂ id).trans (if_pos hid), by simp⟩

namespace Fleet
variable {engine : Party → Engine k} {f : Fleet k} {m : Move k} {key place : ObjectKey}
  {elapsed : Duration} {circumstances : Circumstances k} {r : Resource k} {id : String}

/-- The object at a place records an entity that its owner's platform holds. -/
structure Owns (f : Fleet k) (place : ObjectKey) (r : Resource k) (id : String) : Prop where
  object : f.store.get? place = some r
  recorded : r.remoteId = some id
  held : (f.platform .owner).entity? id ≠ none

/-- The entity is gone, or the object or its finalizer is. -/
def Harmed (f' : Fleet k) (place : ObjectKey) (r : Resource k) (id : String) : Prop :=
  (f'.platform .owner).entity? id = none ∨ f'.store.get? place = none ∨
    ∃ r', f'.store.get? place = some r' ∧ r.hasFinalizer k.finalizer = true ∧
      r'.hasFinalizer k.finalizer = false

/-- A pass of the stranger deletes the entity of the owner's object, or takes away the finalizer or
the object while the entity exists. -/
def Disturbs (engine : Party → Engine k) (place : ObjectKey) (f : Fleet k) : Move k → Prop
  | .pass .stranger key elapsed circumstances => ∃ r id, f.Owns place r id ∧
      (f.after engine (.pass .stranger key elapsed circumstances)).Harmed place r id
  | _ => False

/-- The stranger makes a pass on the owner's object while it records an existing entity; with
platforms of their own, while it also is marked for deletion and has the finalizer. -/
def Trespasses (place : ObjectKey) (f : Fleet k) : Move k → Prop
  | .pass .stranger key _ _ => key = place ∧ ∃ r id, f.Owns place r id ∧
      (f.shared = true ∨ r.metadata.isDeleting = true ∧ r.hasFinalizer k.finalizer = true)
  | _ => False

/-- Passes of the stranger meet no fault. -/
def MeetsNoFault : Move k → Prop
  | .pass .stranger _ _ circumstances => circumstances.AreCalm
  | _ => True

theorem Sound.not_inScope (h : f.Sound engine place)
    (hdisjoint : (engine .owner).selector.Disjoint (engine .stranger).selector)
    (hr : f.store.get? place = some r) : (engine .stranger).inScope r = false :=
  hdisjoint _ (h.owned r hr)

/-- A pass of the stranger on another object leaves the owner's object and its entity alone. -/
theorem Sound.elsewhere (h : f.Sound engine place) (elapsed : Duration)
    (hc : circumstances.ArePlain) (hf : f.Fresh .stranger) (hkey : key ≠ place) (hown : f.Owns place r id) :
    (f.passed engine .stranger key elapsed circumstances).store.get? place = some r ∧
      (f.shared = true → (f.passed engine .stranger key elapsed circumstances).Holds id) := by
  obtain ⟨hr, hid, hheld⟩ := hown
  obtain ⟨ok, heffect⟩ := passed_effect h .stranger key elapsed hc
  have hheld (hs : f.shared = true) : (f.worldOf .stranger).Holds id := by
    simpa only [Holds, worldOf, h.joined hs .stranger .owner] using hheld
  have hput {o} (ho : (f.passed engine .stranger key elapsed circumstances).store.get? =
      Function.update f.store.get? key o) :
      (f.passed engine .stranger key elapsed circumstances).store.get? place = some r := by
    rw [ho, Function.update_of_ne hkey.symm, hr]
  have hstay (he : (f.passed engine .stranger key elapsed circumstances).platform.entity? =
      (f.platform .stranger).entity?) (hs : f.shared = true) :
      (f.passed engine .stranger key elapsed circumstances).Holds id := by
    rw [Holds, he]
    exact hheld hs
  have hadd {id' e} (he : (f.passed engine .stranger key elapsed circumstances).platform.entity? =
      Function.update (f.platform .stranger).entity? id' (some e)) (hs : f.shared = true) :
      (f.passed engine .stranger key elapsed circumstances).Holds id :=
    (holds_update (w := f.worldOf .stranger) he).2 (Or.inl (hheld hs))
  have hdrop {r₁ : Resource k} (hr₁ : f.store.get? key = some r₁)
      (he : ∀ id, (f.passed engine .stranger key elapsed circumstances).platform.entity? id =
        if r₁.remoteId = some id then none else (f.platform .stranger).entity? id)
      (hs : f.shared = true) :
      (f.passed engine .stranger key elapsed circumstances).Holds id := by
    have hne : r₁.remoteId ≠ some id := fun hid₁ =>
      hkey (h.distinct hs key place r₁ r id hr₁ hr hid₁ hid)
    rw [Holds, he id, if_neg hne]
    exact hheld hs
  cases heffect with
  | idle ho he => exact ⟨ho ▸ hr, hstay he⟩
  | undone _ _ ho he =>
    refine ⟨ho ▸ hr, ?_⟩
    intro hs
    have hne : id ≠ (f.platform .stranger).nextId := by
      rintro rfl
      exact hheld hs hf.unheld
    rw [Holds, he]
    exact (Function.update_of_ne hne _ _).trans_ne (hheld hs)
  | leaked _ _ _ ho he => exact ⟨ho ▸ hr, hadd he⟩
  | cut _ _ hrec _ | created _ _ hrec _ =>
    obtain ⟨b, he⟩ := hrec.entities
    exact ⟨hput hrec.objects, hadd he⟩
  | forgotten _ _ _ _ _ _ _ ho he => exact ⟨hput ho, hstay he⟩
  | updated _ _ _ _ _ ho he =>
    rcases ho with ho | ⟨r', -, -, -, ho⟩
    · exact ⟨ho ▸ hr, hadd he⟩
    · exact ⟨hput ho, hadd he⟩
  | tornDown hr₁ _ ho he => exact ⟨ho ▸ hr, hdrop hr₁ he⟩
  | released hr₁ _ _ _ ho he =>
    rw [h.placed key _ hr₁] at ho
    exact ⟨hput ho, hdrop hr₁ he⟩

theorem not_harmed {f' : Fleet k} (ho : f'.store.get? place = some r)
    (he : (f'.platform .owner).entity? id ≠ none) : ¬ f'.Harmed place r id := by
  rintro (hnone | hnone | ⟨r', hr', hfin, hfin'⟩)
  · exact he hnone
  · simp [ho] at hnone
  · obtain rfl := Option.some.inj (ho.symm.trans hr')
    simp [hfin] at hfin'

theorem platform_of_shared (hs : f.shared = true) :
    (f.after engine (.pass .stranger key elapsed circumstances)).platform .owner =
      (f.passed engine .stranger key elapsed circumstances).platform := moved_of_shared hs

theorem platform_of_separate (hs : f.shared = false) :
    (f.after engine (.pass .stranger key elapsed circumstances)).platform .owner =
      f.platform .owner := moved_of_ne hs (by decide)

/-- On the owner's object the stranger can only release the finalizer, and only after a deletion. -/
theorem Sound.released_of_harmed (h : f.Sound engine place)
    (hdisjoint : (engine .owner).selector.Disjoint (engine .stranger).selector)
    (hc : circumstances.ArePlain) (hown : f.Owns place r id)
    (hheld : ((f.after engine (.pass .stranger place elapsed circumstances)).platform
      .owner).entity? id ≠ none)
    (hharm : (f.after engine (.pass .stranger place elapsed circumstances)).Harmed place r id) :
    r.metadata.isDeleting = true ∧ r.hasFinalizer k.finalizer = true := by
  obtain ⟨ok, heffect⟩ := passed_effect h .stranger place elapsed hc
  have hscope := h.not_inScope hdisjoint hown.object
  have hloaded {r₁ : Resource k} (hr₁ : f.store.get? place = some r₁) : r₁ = r :=
    Option.some.inj (hr₁.symm.trans hown.object)
  have hnew {r₁ : Resource k} (hr₁ : f.store.get? place = some r₁) :
      (engine .stranger).lifecycle r₁ ≠ .pendingCreation := fun due => by
    have hin := (Engine.lifecycle_eq_pendingCreation_iff.1 due).2
    simp [hloaded hr₁, hscope] at hin
  have hactive {r₁ : Resource k} (hr₁ : f.store.get? place = some r₁) :
      (engine .stranger).lifecycle r₁ ≠ .active := fun due => by
    have hin := (Engine.lifecycle_eq_active_iff.1 due).2.2
    simp [hloaded hr₁, hscope] at hin
  have hsame (ho : (f.passed engine .stranger place elapsed circumstances).store.get? =
      f.store.get?) : False :=
    not_harmed ((congrFun ho place).trans hown.object) hheld hharm
  cases heffect with
  | idle ho _ | tornDown _ _ ho _ => exact (hsame ho).elim
  | undone hr₁ due _ _ | leaked hr₁ due _ _ _ | cut hr₁ due _ _ | created hr₁ due _ _ =>
    exact absurd due (hnew hr₁)
  | forgotten hr₁ due _ _ _ _ _ _ _ | updated hr₁ due _ _ _ _ _ => exact absurd due (hactive hr₁)
  | released hr₁ due hguarded _ _ _ =>
    obtain rfl := hloaded hr₁
    exact ⟨(Engine.lifecycle_eq_pendingDeletion_iff.1 due).1, hguarded⟩

/-- The stranger disturbs nothing unless it trespasses. -/
theorem Sound.trespasses_of_disturbs (h : f.Sound engine place)
    (hdisjoint : (engine .owner).selector.Disjoint (engine .stranger).selector)
    (hm : f.Allows engine place m) (hd : f.Disturbs engine place m) : f.Trespasses place m := by
  cases m with
  | pass p key elapsed circumstances =>
    cases p with
    | owner => exact hd
    | stranger =>
      obtain ⟨r, id, hown, hharm⟩ := hd
      obtain ⟨hc, hf, -⟩ := hm
      by_cases hkey : key = place
      · subst hkey
        refine ⟨rfl, r, id, hown, ?_⟩
        cases hs : f.shared with
        | true => exact Or.inl rfl
        | false =>
          have hheld : ((f.after engine (.pass .stranger key elapsed circumstances)).platform
              .owner).entity? id ≠ none := by
            rw [platform_of_separate hs]
            exact hown.held
          exact Or.inr (h.released_of_harmed hdisjoint hc hown hheld hharm)
      · obtain ⟨hobject, hheld⟩ := h.elsewhere elapsed hc hf hkey hown
        refine absurd hharm (not_harmed hobject ?_)
        cases hs : f.shared with
        | true =>
          rw [platform_of_shared hs]
          exact hheld hs
        | false =>
          rw [platform_of_separate hs]
          exact hown.held
  | _ => exact hd

/-- Where it trespasses and meets no fault, the stranger does disturb. -/
theorem Sound.disturbs_of_trespasses (h : f.Sound engine place)
    (hdisjoint : (engine .owner).selector.Disjoint (engine .stranger).selector)
    (hcalm : MeetsNoFault m) (ht : f.Trespasses place m) : f.Disturbs engine place m := by
  cases m with
  | pass p key elapsed circumstances =>
    cases p with
    | owner => exact ht
    | stranger =>
      obtain ⟨rfl, r, id, hown, hcase⟩ := ht
      refine ⟨r, id, hown, ?_⟩
      obtain ⟨_, w', hx, hgone, hfree⟩ := ok_of_ends (calm_teardown (g := engine .stranger)
        (hcalm.under (f.worldOf .stranger)) hown.object (h.placed key r hown.object)
        (h.not_inScope hdisjoint hown.object) hown.recorded elapsed)
      have hw' : f.passed engine .stranger key elapsed circumstances = w' := after_of_ok hx
      rcases hcase with hs | ⟨hdeleting, hfin⟩
      · refine Or.inl ?_
        rw [platform_of_shared hs, hw']
        exact hgone
      · have hs : (f.after engine (.pass .stranger key elapsed circumstances)).store = w'.store :=
          congrArg World.store hw'
        cases ho : w'.store.get? key with
        | none => exact Or.inr (Or.inl (by rw [hs, ho]))
        | some r' =>
          exact Or.inr (Or.inr ⟨r', by rw [hs, ho], hfin, hfree hdeleting r' ho⟩)
  | _ => exact ht

/-- Of two engines with disjoint selectors, the one that does not own an object disturbs it only by
passes on the object itself while it records an existing entity: any such pass, where both have one
platform; one on a marked object with the finalizer, where each has its own. And without faults
every such pass does. -/
theorem disturbs_only_by_trespass {moves : List (Move k)} (hf : f.Begins)
    (hdisjoint : (engine .owner).selector.Disjoint (engine .stranger).selector)
    (hmoves : Along (after engine) (Allows engine place) f moves) :
    (Along (after engine) (fun f m => ¬ f.Trespasses place m) f moves →
      Along (after engine) (fun f m => ¬ f.Disturbs engine place m) f moves) ∧
    (Along (after engine) (fun _ m => MeetsNoFault m) f moves →
      Along (after engine) (fun f m => ¬ f.Disturbs engine place m) f moves →
      Along (after engine) (fun f m => ¬ f.Trespasses place m) f moves) := by
  have hsound : f.Sound engine place := hf.sound
  clear hf
  induction moves generalizing f with
  | nil => exact ⟨id, fun _ => id⟩
  | cons m moves ih =>
    obtain ⟨hm, hmoves⟩ := hmoves
    obtain ⟨hfirst, hsecond⟩ := ih hmoves (hsound.after hm)
    exact ⟨fun ht => ⟨fun hd => ht.1 (hsound.trespasses_of_disturbs hdisjoint hm hd),
        hfirst ht.2⟩,
      fun hcalm hd => ⟨fun ht => hd.1 (hsound.disturbs_of_trespasses hdisjoint hcalm.1 ht),
        hsecond hcalm.2 hd.2⟩⟩

/-- The fleet that a sample run starts with: engines for the teams that are labelled `a` and `b`. -/
def sampleEngine : Party → Engine .team
  | .owner => ⟨⟨[.equals "team" "b"]⟩, .zero, .zero⟩
  | .stranger => ⟨⟨[.equals "team" "a"]⟩, .zero, .zero⟩

theorem sampleEngine_disjoint :
    (sampleEngine .owner).selector.Disjoint (sampleEngine .stranger).selector := by
  intro labels h
  simp_all [sampleEngine, Selector.accepts, Requirement.accepts]

def sampleStart (shared : Bool) : Fleet .team :=
  ⟨.empty, shared, fun _ => .ofIds ["e-1", "e-2"], fun _ => .empty, []⟩

theorem sampleStart_begins (shared : Bool) : (sampleStart shared).Begins :=
  ⟨fun _ => rfl, (fun _ _ _ h => by cases h), fun _ _ _ => rfl⟩

def sampleTeam : Resource .team :=
  { Sample.team with
    metadata :=
      { Sample.team.metadata with labels := some ((∅ : Labels).insert "team" "b") } }

/-- On a platform of its own the stranger may look at the owner's object without harm. -/
theorem undisturbed_by_separate_pass :
    let moves : List (Move .team) := [.insert sampleTeam, .pass .owner Sample.key .zero .calm,
      .pass .stranger Sample.key .zero .calm]
    Along (after sampleEngine) (fun f m => ¬ f.Disturbs sampleEngine Sample.key m)
      (sampleStart false) moves := by
  intro moves
  have hmoves : Along (after sampleEngine) (Allows sampleEngine Sample.key) (sampleStart false)
      moves :=
    ⟨⟨rfl, rfl, fun _ => by decide⟩,
      ⟨Circumstances.calm_arePlain, ⟨by decide, by decide, by decide⟩, by decide⟩,
      ⟨Circumstances.calm_arePlain, ⟨by decide, by decide, by decide⟩, by decide⟩, trivial⟩
  refine (disturbs_only_by_trespass (sampleStart_begins false) sampleEngine_disjoint hmoves).1
    ⟨id, id, ?_, trivial⟩
  rintro ⟨-, r, id, hown, hs | ⟨hdeleting, -⟩⟩
  · cases hs
  · let f := (moves.take 2).foldl (after sampleEngine) (sampleStart false)
    have hunmarked : (f.store.get? Sample.key).all (fun r => !r.metadata.isDeleting) = true := by
      decide
    have hr : f.store.get? Sample.key = some r := hown.object
    simp [hr, hdeleting] at hunmarked

/-- On one platform the stranger deletes the owner's entity; on platforms of their own it lets a
deleted object go while the owner's entity still exists. -/
theorem disturbed_by_stranger :
    let moves : List (Move .team) := [.insert sampleTeam, .pass .owner Sample.key .zero .calm,
      .pass .stranger Sample.key .zero .calm]
    let moves' : List (Move .team) := [.insert sampleTeam, .pass .owner Sample.key .zero .calm,
      .delete Sample.key .earliest, .pass .stranger Sample.key .zero .calm]
    (Along (after sampleEngine) (Allows sampleEngine Sample.key) (sampleStart true) moves ∧
      ¬ Along (after sampleEngine) (fun f m => ¬ f.Disturbs sampleEngine Sample.key m)
        (sampleStart true) moves) ∧
    Along (after sampleEngine) (Allows sampleEngine Sample.key) (sampleStart false) moves' ∧
      ¬ Along (after sampleEngine) (fun f m => ¬ f.Disturbs sampleEngine Sample.key m)
        (sampleStart false) moves' := by
  intro moves moves'
  refine ⟨⟨⟨⟨rfl, rfl, fun _ => by decide⟩,
    ⟨Circumstances.calm_arePlain, ⟨by decide, by decide, by decide⟩, by decide⟩,
    ⟨Circumstances.calm_arePlain, ⟨by decide, by decide, by decide⟩, by decide⟩, trivial⟩,
    ?_⟩, ⟨⟨rfl, rfl, fun _ => by decide⟩,
    ⟨Circumstances.calm_arePlain, ⟨by decide, by decide, by decide⟩, by decide⟩, trivial,
    ⟨Circumstances.calm_arePlain, ⟨by decide, by decide, by decide⟩, by decide⟩, trivial⟩,
    ?_⟩
  · intro h
    let f := (moves.take 2).foldl (after sampleEngine) (sampleStart true)
    have hrecorded : (f.store.get? Sample.key).map Resource.remoteId = some (some "e-1") := by
      decide
    obtain ⟨r, hr, hid⟩ := Option.map_eq_some_iff.1 hrecorded
    exact h.2.2.1 ⟨r, "e-1", ⟨hr, hid, by decide⟩, Or.inl (by decide)⟩
  · intro h
    let f := (moves'.take 3).foldl (after sampleEngine) (sampleStart false)
    have hrecorded : (f.store.get? Sample.key).map Resource.remoteId = some (some "e-1") := by
      decide
    obtain ⟨r, hr, hid⟩ := Option.map_eq_some_iff.1 hrecorded
    exact h.2.2.2.1 ⟨r, "e-1", ⟨hr, hid, by decide⟩, Or.inr (Or.inl (by decide))⟩

end Fleet

end ResourceSync
