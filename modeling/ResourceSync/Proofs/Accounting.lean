import ResourceSync.Proofs.Carried
import ResourceSync.Proofs.History

/-! A pass is counted once, by how it ended, whichever of its calls fail - unless the first of them
fails, by which the object is loaded. -/
namespace ResourceSync

variable {k : Kind}

open World

theorem Outcome.name_injective {o₁ o₂ : Outcome} (h : o₁.name = o₂.name) : o₁ = o₂ := by
  cases o₁ <;> cases o₂ <;> first | rfl | exact absurd h (by decide)

namespace Metrics
variable {m m' : Metrics} {outcome : Outcome} {elapsed : Duration}

/-- How many passes on resources of a kind ended in one way. -/
def passes (m : Metrics) (k : Kind) (outcome : Outcome) : Nat :=
  (m.reconciliations.get? [k.name, outcome.name]).getD 0

/-- How many passes on resources of a kind ended in any way. -/
def allPasses (m : Metrics) (k : Kind) : Nat :=
  m.passes k .success + m.passes k .error + m.passes k .skipped

/-- How many durations of passes on resources of a kind were observed. -/
def observations (m : Metrics) (k : Kind) : Nat := ((m.durations.get? [k.name]).getD .empty).count

/-- One pass was counted, as one that ended in this way, and its duration was observed. -/
structure CountsOnce (k : Kind) (m m' : Metrics) (outcome : Outcome) : Prop where
  total : m'.allPasses k = m.allPasses k + 1
  byOutcome : ∀ o, m'.passes k o = m.passes k o + if o = outcome then 1 else 0
  observed : m'.observations k = m.observations k + 1

/-- No pass was counted, whatever else was. -/
def CountsNone (m m' : Metrics) : Prop :=
  m'.reconciliations = m.reconciliations ∧ m'.durations = m.durations

theorem passes_recordReconcile (o : Outcome) :
    (m.recordReconcile k.name outcome.name elapsed).passes k o =
      m.passes k o + if o = outcome then 1 else 0 := by
  simp only [passes, recordReconcile, increment, SortedMap.get?_insert, List.cons.injEq, true_and,
    and_true]
  by_cases ho : o = outcome
  · subst ho
    simp
  · have hname : o.name ≠ outcome.name := fun h => ho (Outcome.name_injective h)
    simp [ho, hname]

theorem countsOnce_recordReconcile :
    CountsOnce k m (m.recordReconcile k.name outcome.name elapsed) outcome where
  total := by
    simp only [allPasses, passes_recordReconcile]
    cases outcome <;> simp <;> omega
  byOutcome := passes_recordReconcile
  observed := by simp [observations, recordReconcile, Histogram.observe]

/-- What is counted beside the passes does not matter. -/
theorem CountsOnce.of_countsNone {m₁ : Metrics} (h : CountsOnce k m₁ m' outcome)
    (hnone : m.CountsNone m₁) : CountsOnce k m m' outcome := by
  obtain ⟨htotal, hby, hobserved⟩ := h
  simp only [allPasses, passes, observations, hnone.1, hnone.2] at htotal hby hobserved
  exact ⟨htotal, hby, hobserved⟩

theorem countsNone_removeResource (kind inNamespace name : String) :
    m.CountsNone (m.removeResource kind inNamespace name) := by
  unfold removeResource
  dsimp only
  split <;> exact ⟨rfl, rfl⟩

end Metrics

namespace World
variable {α : Type} {I : World k → Prop} {site : Site}

/-- The objects and what is to happen around the calls do not matter. -/
def Overlooks (I : World k → Prop) : Prop :=
  ∀ w store plan, I w → I { w with store := store, plan := plan }

theorem Overlooks.around {call : Run k α} (hI : Overlooks I) (h : Carries I call) :
    Carries I (around site call) := by
  intro w hw
  simp only [World.around, ends_bind, ends_nextTurn]
  cases (w.plan site).headD .pass with
  | pass | distort => exact h _ (hI w _ _ hw)
  | fail cause => exact hI w _ _ hw
  | meddle change => exact h _ (hI w _ _ hw)

theorem Overlooks.onStore {step : Store k → Except StoreError α × Store k} (hI : Overlooks I) :
    Carries I (onStore step) := by
  intro w hw
  rw [ends_onStore]
  split <;> exact hI w _ _ hw

theorem carries_onPlatform {step : Platform k → Except RemoteError α × Platform k}
    (h : ∀ w, I w → I { w with platform := (step w.platform).2 }) : Carries I (onPlatform step) := by
  intro w hw
  have hstep := h w hw
  rw [ends_onPlatform]
  split <;> next heq => simpa only [heq] using hstep

theorem Overlooks.getEntity {id : String} (hI : Overlooks I)
    (h : ∀ w, I w → I { w with platform := (w.platform.get id).2 }) :
    Carries I (getEntity id : Run k (Entity k.Body)) := by
  intro w hw
  simp only [World.getEntity, ends_bind, ends_nextTurn]
  cases (w.plan .remoteGet).headD .pass with
  | pass => exact carries_onPlatform h _ (hI w _ _ hw)
  | fail cause => exact hI w _ _ hw
  | meddle change =>
    simp only [ends_bind, ends_modify]
    exact carries_onPlatform h _ (hI w _ _ hw)
  | distort change =>
    simp only [ends_bind, ends_pure]
    exact carries_onPlatform h _ (hI w _ _ hw)

/-- Where look-ups do not matter either, no request does but one that changes the platform. -/
theorem Overlooks.requests (hI : Overlooks I)
    (hget : ∀ w id, I w → I { w with platform := (w.platform.get id).2 }) : CarriedByRequests I where
  load _ := hI.around fun _ h => h
  patchFinalizers _ _ := hI.around hI.onStore
  writeStatus _ _ := hI.around hI.onStore
  getEntity id := hI.getEntity fun w => hget w id

theorem Overlooks.steps (hI : Overlooks I)
    (hget : ∀ w id, I w → I { w with platform := (w.platform.get id).2 })
    (hpublish : ∀ w es, I w → I { w with events := es }) : CarriedBySteps I where
  toCarriedByRequests := hI.requests hget
  publish _ _ _ := fun w => hpublish w _

/-- What is said of the metrics alone no call has a part in. -/
theorem carriedByCalls_metrics {M : Metrics → Prop}
    (hcount : ∀ m (o : Operation), M m → M (m.recordOperation k.name o.name))
    (htrack : ∀ m (r : Resource k), M m →
      M (m.setResource k.name r.key.inNamespace r.key.name r.typeLabel))
    (huntrack : ∀ m (r : Resource k), M m →
      M (m.removeResource k.name r.key.inNamespace r.key.name)) :
    CarriedByCalls fun w : World k => M w.metrics where
  toCarriedBySteps := Overlooks.steps (fun _ _ _ h => h) (fun _ _ h => h) fun _ _ h => h
  createEntity _ := Overlooks.around (fun _ _ _ h => h) (carries_onPlatform fun _ h => h)
  updateEntity _ _ := Overlooks.around (fun _ _ _ h => h) (carries_onPlatform fun _ h => h)
  deleteEntity _ := Overlooks.around (fun _ _ _ h => h) (carries_onPlatform fun _ h => h)
  countOperation o := fun w h => hcount w.metrics o h
  track r := fun w h => htrack w.metrics r h
  untrack r := fun w h => huntrack w.metrics r h

/-- A pass counts nothing among the passes before it has ended. -/
theorem countsNone_carried (m : Metrics) :
    CarriedByCalls fun w : World k => m.CountsNone w.metrics := by
  refine carriedByCalls_metrics (fun _ _ h => h) (fun _ _ h => h) ?_
  intro m₁ r h
  obtain ⟨hpasses, hdurations⟩ := Metrics.countsNone_removeResource (m := m₁) _ _ _
  exact ⟨hpasses.trans h.1, hdurations.trans h.2⟩

end World

namespace Engine
variable {g : Engine k} {key : ObjectKey} {elapsed : Duration} {w : World k}

/-- What a pass on the object under a key is to be counted as. -/
def outcome (g : Engine k) (key : ObjectKey) (elapsed : Duration) (w : World k) : Outcome :=
  match g.reconcile key elapsed w with
  | .ok _ _ => if (w.store.get? key).isSome then .success else .skipped
  | .error _ _ => .error

/-- A pass on the object under a key is counted once, as what it was. -/
def Accounts (g : Engine k) (key : ObjectKey) (elapsed : Duration) (w : World k) : Prop :=
  Metrics.CountsOnce k w.metrics (after (g.reconcile key elapsed) w).metrics
    (g.outcome key elapsed w)

/-- A pass whose object is loaded is counted by how it ends. -/
theorem counts_of_loads (g : Engine k) (key : ObjectKey) (elapsed : Duration) (hw : w.Alone)
    (hloads : ∀ cause, (w.plan .storeGet).headD .pass ≠ .fail cause) :
    Ends (g.reconcile key elapsed) w
      (fun _ w' => Metrics.CountsOnce k w.metrics w'.metrics
        (if (w.store.get? key).isSome then .success else .skipped))
      (fun _ w' => Metrics.CountsOnce k w.metrics w'.metrics .error) := by
  unfold reconcile
  simp only [ends_bind, ends_during]
  refine hw.around_planned (fun _ => ?_) fun cause hfail => absurd hfail (hloads cause)
  simp only [ends_bind, ends_get, ends_pure]
  cases w.store.get? key with
  | none => exact Metrics.countsOnce_recordReconcile
  | some r =>
    simp only [ends_bind, ends_attempt]
    refine Ends.imp ((countsNone_carried w.metrics).transition g _ ?_) ?_ ?_
    · exact ⟨rfl, rfl⟩
    · intro next w₁ h₁
      exact Metrics.countsOnce_recordReconcile.of_countsNone h₁
    · intro f w₁ h₁
      exact Metrics.countsOnce_recordReconcile.of_countsNone h₁

/-- Where the object cannot be loaded the failure is handed on before anything is counted. -/
theorem metrics_of_fail {cause : FailureCause}
    (hfail : (w.plan .storeGet).headD .pass = .fail cause) :
    (after (g.reconcile key elapsed) w).metrics = w.metrics := by
  refine Ends.after (P := fun w' => w'.metrics = w.metrics) ?_
  simp only [reconcile, load, around, ends_bind, ends_during, ends_nextTurn, hfail]
  rfl

/-- Whichever calls fail, a pass is counted once, as what it was, exactly if the call that loads its
object does not fail. -/
theorem accounts_iff_loads (hw : w.Alone) : g.Accounts key elapsed w ↔
    ∀ cause, (w.plan .storeGet).headD .pass ≠ .fail cause := by
  constructor
  · intro h cause hfail
    have htotal := h.total
    rw [metrics_of_fail hfail] at htotal
    exact Nat.succ_ne_self _ htotal.symm
  · intro hloads
    have hcounts := counts_of_loads g key elapsed hw hloads
    unfold Accounts outcome
    cases hx : g.reconcile key elapsed w with
    | ok next w' =>
      rw [after_of_ok hx]
      exact hcounts.of_ok hx
    | error f w' =>
      rw [after_of_error hx]
      exact hcounts.of_error hx

/-- A pass that cannot create its entity is counted once, as an error. -/
theorem counts_failed_creation :
    let w : World .team :=
      World.under { World.empty ["e-1"] with store := Store.empty.insert Sample.team }
        (.once .remoteCreate (.fail (.other "down")))
    w.Alone ∧ Sample.engine.Accounts Sample.key .zero w ∧
      Sample.engine.outcome Sample.key .zero w = .error := by
  intro w
  have hw : w.Alone := Circumstances.AreOwn.under (Circumstances.once_areOwn (by trivial)) _
  have hloads : ∀ cause, (w.plan .storeGet).headD .pass ≠ .fail cause := by
    intro cause h
    cases h
  exact ⟨hw, (accounts_iff_loads hw).2 hloads, by decide +kernel⟩

/-- A pass that cannot load its object fails and is not counted at all. -/
theorem uncounted_failed_load :
    let w : World .team :=
      World.under { World.empty ["e-1"] with store := Store.empty.insert Sample.team }
        (.once .storeGet (.fail (.other "down")))
    w.Alone ∧ Sample.engine.outcome Sample.key .zero w = .error ∧
      ¬ Sample.engine.Accounts Sample.key .zero w := by
  intro w
  have hw : w.Alone := Circumstances.AreOwn.under (Circumstances.once_areOwn (by trivial)) _
  have hunmoved : (after (Sample.engine.reconcile Sample.key .zero) w).metrics.allPasses .team =
      w.metrics.allPasses .team := by decide +kernel
  refine ⟨hw, by decide +kernel, ?_⟩
  intro h
  rw [h.total] at hunmoved
  exact Nat.succ_ne_self _ hunmoved

end Engine

end ResourceSync
