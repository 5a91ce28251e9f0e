import Mathlib.Data.Finset.Card
import ResourceSync.Proofs.Realm

/-! How often the platform was changed, and how often that was counted. Every change that went
through is counted once, but for the entities that a pass creates and, as it cannot record them,
deletes again: of those only the creation is counted. -/
namespace ResourceSync

variable {k k' : Kind} {o : Operation}

/-- How often the entities were changed by one operation. -/
def ChangeCounts.of (c : ChangeCounts) : Operation → Nat
  | .create => c.create
  | .update => c.update
  | .delete => c.delete

namespace SortedMap
variable {κ α : Type} [KeyOrder κ] {m : SortedMap κ α} {key : κ} {a : α}

theorem mem_keys : key ∈ m.keys ↔ m.get? key ≠ none := by
  constructor
  · intro h
    obtain ⟨⟨key', a⟩, he, rfl⟩ := List.mem_map.1 h
    simp [get?_of_mem he]
  · intro h
    obtain ⟨a, ha⟩ := Option.ne_none_iff_exists'.1 h
    exact List.mem_map.2 ⟨_, mem_toList_of_get? ha, rfl⟩

variable [DecidableEq κ]

/-- A map has as many entries as it has keys. -/
theorem length_toList (m : SortedMap κ α) : m.toList.length = m.keys.toFinset.card := by
  have hnodup : m.keys.Nodup := by
    refine List.Pairwise.map _ ?_ m.sorted
    rintro e e' hlt heq
    exact KeyOrder.lt_irrefl _ (heq ▸ hlt)
  rw [List.toFinset_card_of_nodup hnodup, keys, List.length_map, toList]

theorem keys_insert : (m.insert key a).keys.toFinset = Insert.insert key m.keys.toFinset := by
  ext key'
  simp only [List.mem_toFinset, mem_keys, Finset.mem_insert, get?_insert]
  split <;> simp_all

theorem length_insert_of_none (h : m.get? key = none) :
    (m.insert key a).toList.length = m.toList.length + 1 := by
  have hnew : key ∉ m.keys.toFinset := by simp [mem_keys, h]
  rw [length_toList, length_toList, keys_insert, Finset.card_insert_of_notMem hnew]

theorem length_insert_of_some {a' : α} (h : m.get? key = some a') :
    (m.insert key a).toList.length = m.toList.length := by
  have hold : key ∈ m.keys.toFinset := by simp [mem_keys, h]
  rw [length_toList, length_toList, keys_insert, Finset.insert_eq_of_mem hold]

theorem length_erase_of_some (h : m.get? key = some a) :
    (m.erase key).toList.length + 1 = m.toList.length := by
  have hold : key ∈ m.keys.toFinset := by simp [mem_keys, h]
  have herase : (m.erase key).keys.toFinset = m.keys.toFinset.erase key := by
    ext key'
    simp only [List.mem_toFinset, mem_keys, Finset.mem_erase, get?_erase_eq, Function.update_apply]
    split <;> simp_all
  rw [length_toList, length_toList, herase, Finset.card_erase_add_one hold]

end SortedMap

namespace Platform
variable {p p' : Platform k} {id : String} {b : k.Body}

/-- How many entities the platform holds. -/
def live (p : Platform k) : Nat := p.entities.toList.length

/-- The entities are the same, and no change is added. -/
structure Unaltered (p p' : Platform k) : Prop where
  entities : p'.entities = p.entities
  changes : p'.changes = p.changes

theorem create_alters (p : Platform k) (b : k.Body) :
    (∃ e p', p.create b = (.error e, p') ∧ p.Unaltered p') ∨
    ∃ p', p.create b = (.ok p.nextId, p') ∧
      p'.entities = p.entities.insert p.nextId (newborn p.nextId b) ∧
      p'.changes = { p.changes with create := p.changes.create + 1 } := by
  unfold create attempt nextId takeId
  dsimp only
  split
  · refine Or.inr ?_
    cases p.nextIds with
    | nil => exact ⟨_, rfl, rfl, rfl⟩
    | cons id ids => exact ⟨_, rfl, rfl, rfl⟩
  · exact Or.inl ⟨_, _, rfl, rfl, rfl⟩

theorem unaltered_get (p : Platform k) (id : String) : p.Unaltered (p.get id).2 := by
  unfold get attempt
  dsimp only [entity?]
  split
  · cases p.entities.get? id with
    | none => exact ⟨rfl, rfl⟩
    | some e => exact ⟨rfl, rfl⟩
  · exact ⟨rfl, rfl⟩

theorem update_alters (p : Platform k) (id : String) (b : k.Body) :
    (∃ e p', p.update id b = (.error e, p') ∧ p.Unaltered p') ∨
    ∃ e e' p', p.update id b = (.ok e', p') ∧ p.entity? id = some e ∧
      p'.entities = p.entities.insert id e' ∧
      p'.changes = { p.changes with update := p.changes.update + 1 } := by
  unfold update attempt
  dsimp only [entity?]
  split
  · cases p.entities.get? id with
    | none => exact Or.inl ⟨_, _, rfl, rfl, rfl⟩
    | some e => exact Or.inr ⟨e, _, _, rfl, rfl, rfl, rfl⟩
  · exact Or.inl ⟨_, _, rfl, rfl, rfl⟩

theorem delete_alters (p : Platform k) (id : String) :
    (∃ e p', p.delete id = (.error e, p') ∧ p.Unaltered p') ∨
    ∃ e p', p.delete id = (.ok (), p') ∧ p.entity? id = some e ∧
      p'.entities = p.entities.erase id ∧
      p'.changes = { p.changes with delete := p.changes.delete + 1 } := by
  unfold delete attempt
  dsimp only [entity?]
  split
  · cases p.entities.get? id with
    | none => exact Or.inl ⟨_, _, rfl, rfl, rfl⟩
    | some e => exact Or.inr ⟨e, _, rfl, rfl, rfl, rfl⟩
  · exact Or.inl ⟨_, _, rfl, rfl, rfl⟩

end Platform

namespace Metrics
variable {m m' : Metrics}

/-- How often an operation was counted for a kind. -/
def counted (m : Metrics) (k : Kind) (o : Operation) : Nat :=
  (m.operations.get? [k.name, o.name]).getD 0

theorem counted_recordOperation (m : Metrics) (k : Kind) (o o' : Operation) :
    (m.recordOperation k.name o.name).counted k o' =
      m.counted k o' + if o' = o then 1 else 0 := by
  simp only [counted, recordOperation, increment, SortedMap.get?_insert, List.cons.injEq, true_and,
    and_true, Operation.name_injective.eq_iff]
  split <;> simp_all

theorem counted_note_stands (m : Metrics) (kind : String) (key : ObjectKey) (type : Option String) :
    (m.note kind (.stands key type)).counted k o = m.counted k o := by
  obtain ⟨_, _, heq⟩ := note_stands m kind key type
  rw [heq]
  rfl

theorem SameOf.counted (h : SameOf k m m') (o : Operation) : m'.counted k o = m.counted k o := by
  rw [Metrics.counted, h.operations, Metrics.counted]

end Metrics

namespace World
variable {α : Type} {w : World k} {site : Site} {J : Metrics → Platform k → Prop}
  {call : Platform k → Except RemoteError α × Platform k}

/-- A call that is counted where it goes through, whatever happens around it. -/
theorem ends_counted_call (hfails : J w.metrics w.platform)
    (hcall : match call w.platform with
      | (.ok _, p) => J (w.metrics.recordOperation k.name o.name) p
      | (.error _, p) => J w.metrics p) :
    Ends (counted o (around site (onPlatform call))) w (fun _ w' => J w'.metrics w'.platform)
      (fun _ w' => J w'.metrics w'.platform) := by
  simp only [counted, around, ends_bind, ends_nextTurn]
  cases (w.plan site).headD .pass with
  | fail cause => exact hfails
  | pass | distort | meddle =>
    simp only [ends_bind, ends_modify, ends_onPlatform]
    revert hcall
    rcases call w.platform with ⟨_ | _, p⟩ <;> exact id

/-- What is said of the platform alone does not depend on what is counted. -/
theorem ends_counted_platform {P : Platform k → Prop} (hfails : P w.platform)
    (hcall : P (call w.platform).2) :
    Ends (counted o (around site (onPlatform call))) w (fun _ w' => P w'.platform)
      (fun _ w' => P w'.platform) := by
  refine ends_counted_call (J := fun _ p => P p) hfails ?_
  revert hcall
  rcases call w.platform with ⟨_ | _, p⟩ <;> exact id

/-- A call that is not counted. -/
theorem carries_uncounted_call (hcall : ∀ m p, J m p → J m (call p).2) :
    Carries (fun w => J w.metrics w.platform) (around site (onPlatform call)) :=
  Overlooks.around (fun _ _ _ h => h) (carries_onPlatform fun w => hcall w.metrics w.platform)

theorem steps_of_unaltered (hJ : ∀ m p p', p.Unaltered p' → J m p → J m p') :
    CarriedBySteps fun w : World k => J w.metrics w.platform :=
  Overlooks.steps (fun _ _ _ h => h)
    (fun w id => hJ w.metrics w.platform _ (w.platform.unaltered_get id)) fun _ _ h => h

end World

section since
variable {m₀ m : Metrics} {p₀ p p' : Platform k}

/-- Every change since the first moment was counted. -/
def Counts (m₀ : Metrics) (p₀ : Platform k) (m : Metrics) (p : Platform k) : Prop :=
  ∀ o, p.changes.of o + m₀.counted k o = p₀.changes.of o + m.counted k o

/-- Every change since the first moment was counted but the deletions, of which none was. -/
structure Undoes (m₀ : Metrics) (p₀ : Platform k) (m : Metrics) (p : Platform k) : Prop where
  others : ∀ o, o ≠ .delete → p.changes.of o + m₀.counted k o = p₀.changes.of o + m.counted k o
  deletions : m.counted k .delete = m₀.counted k .delete
  grown : p₀.changes.delete ≤ p.changes.delete

theorem Counts.undoes (h : Counts m₀ p₀ m₀ p₀) : Undoes m₀ p₀ m₀ p₀ := ⟨fun o _ => h o, rfl, le_rfl⟩

theorem Counts.unaltered (h : Counts m₀ p₀ m p) (hp : p.Unaltered p') : Counts m₀ p₀ m p' := by
  intro o
  rw [hp.changes]
  exact h o

theorem Undoes.unaltered (h : Undoes m₀ p₀ m p) (hp : p.Unaltered p') : Undoes m₀ p₀ m p' := by
  obtain ⟨hothers, hdeletions, hgrown⟩ := h
  rw [← hp.changes] at hothers hgrown
  exact ⟨hothers, hdeletions, hgrown⟩

theorem Counts.counted (h : Counts m₀ p₀ m p)
    (hp : ∀ o', p'.changes.of o' = p.changes.of o' + if o' = o then 1 else 0) :
    Counts m₀ p₀ (m.recordOperation k.name o.name) p' := by
  intro o'
  have ho := h o'
  rw [hp, Metrics.counted_recordOperation]
  omega

theorem Counts.restated (h : Counts m₀ p₀ m p) (key : ObjectKey) (type : Option String) :
    Counts m₀ p₀ (m.note k.name (.stands key type)) p := by
  intro o
  rw [Metrics.counted_note_stands]
  exact h o

theorem Undoes.restated (h : Undoes m₀ p₀ m p) (key : ObjectKey) (type : Option String) :
    Undoes m₀ p₀ (m.note k.name (.stands key type)) p := by
  obtain ⟨hothers, hdeletions, hgrown⟩ := h
  exact ⟨fun o ho => by rw [Metrics.counted_note_stands, hothers o ho],
    by rw [Metrics.counted_note_stands, hdeletions], hgrown⟩

end since

namespace World
variable {g : Engine k} {r : Resource k} {w : World k} {m₀ : Metrics} {p₀ : Platform k}
  {key : ObjectKey}

/-- An update or a deletion is counted if it goes through. -/
theorem counts_transition (h : Counts m₀ p₀ w.metrics w.platform)
    (due : g.lifecycle r ≠ .pendingCreation) :
    Ends (g.transition r) w (fun _ w' => Counts m₀ p₀ w'.metrics w'.platform)
      (fun _ w' => Counts m₀ p₀ w'.metrics w'.platform) := by
  have hsteps : CarriedBySteps fun w : World k => Counts m₀ p₀ w.metrics w.platform :=
    steps_of_unaltered fun _ _ _ hp h => h.unaltered hp
  have hupdated (id b) : Carries (fun w : World k => Counts m₀ p₀ w.metrics w.platform)
      (counted .update (updateEntity id b)) := by
    intro w h
    refine ends_counted_call h ?_
    rcases w.platform.update_alters id b with ⟨e, p, hs, hp⟩ | ⟨-, e, p, hs, -, -, hp⟩
    · simp only [hs]
      exact h.unaltered hp
    · simp only [hs]
      exact h.counted fun o => by cases o <;> simp [hp, ChangeCounts.of]
  have hdeleted (id) : Carries (fun w : World k => Counts m₀ p₀ w.metrics w.platform)
      (counted .delete (deleteEntity id)) := by
    intro w h
    refine ends_counted_call h ?_
    rcases w.platform.delete_alters id with ⟨e, p, hs, hp⟩ | ⟨-, p, hs, -, -, hp⟩
    · simp only [hs]
      exact h.unaltered hp
    · simp only [hs]
      exact h.counted fun o => by cases o <;> simp [hp, ChangeCounts.of]
  have huntrack : Carries (fun w : World k => Counts m₀ p₀ w.metrics w.platform) r.untrack :=
    fun _ h => h.restated r.key none
  refine hsteps.transition g (fun hcreate => absurd hcreate due) (fun _ => ?_) (fun _ => ?_) h
  · exact hsteps.update hupdated (fun _ h => h.restated r.key (some r.typeLabel)) huntrack w h
  · exact (CarriedByRequests.delete h (fun id => hdeleted id w h) huntrack).imp
      (fun _ _ h => (ite_self _).mp h) fun _ _ h => h

/-- A creation is counted if it goes through, and the deletion that may make up for it is not. -/
theorem undoes_transition (h : Undoes m₀ p₀ w.metrics w.platform)
    (due : g.lifecycle r = .pendingCreation) :
    Ends (g.transition r) w (fun _ w' => Undoes m₀ p₀ w'.metrics w'.platform)
      (fun _ w' => Undoes m₀ p₀ w'.metrics w'.platform) := by
  have hsteps : CarriedBySteps fun w : World k => Undoes m₀ p₀ w.metrics w.platform :=
    steps_of_unaltered fun _ _ _ hp h => h.unaltered hp
  have hcreated (b) : Ends (counted .create (createEntity b)) w
      (fun _ w' => Undoes m₀ p₀ w'.metrics w'.platform)
      (fun _ w' => Undoes m₀ p₀ w'.metrics w'.platform) := by
    refine ends_counted_call h ?_
    rcases w.platform.create_alters b with ⟨e, p, hs, hp⟩ | ⟨p, hs, -, hp⟩
    · simp only [hs]
      exact h.unaltered hp
    · simp only [hs]
      refine ⟨?_, ?_, ?_⟩
      · intro o ho
        have hbefore := h.others o ho
        rw [Metrics.counted_recordOperation, hp]
        cases o with
        | delete => exact absurd rfl ho
        | create | update =>
          simp only [ChangeCounts.of, reduceCtorEq, if_true, if_false] at *
          omega
      · rw [Metrics.counted_recordOperation, h.deletions]
        rfl
      · rw [hp]
        exact h.grown
  have hundone (id) : Carries (fun w : World k => Undoes m₀ p₀ w.metrics w.platform)
      (deleteEntity id) := by
    refine carries_uncounted_call fun m p h => ?_
    rcases p.delete_alters id with ⟨e, p', hs, hp⟩ | ⟨-, p', hs, -, -, hp⟩
    · rw [hs]
      exact h.unaltered hp
    · rw [hs]
      refine ⟨?_, h.deletions, ?_⟩
      · intro o ho
        rw [← h.others o ho, hp]
        cases o with
        | delete => exact absurd rfl ho
        | create | update => rfl
      · rw [hp]
        exact h.grown.trans (Nat.le_succ _)
  refine hsteps.transition g (fun _ => ?_) (fun hupdate => ?_) (fun hdelete => ?_) h
  · exact hsteps.create h hcreated hundone fun _ h => h.restated r.key (some r.typeLabel)
  · simp [due] at hupdate
  · simp [due] at hdelete

/-- Where nobody else acts, a pass is what is due for the object that it loads, and what is noted at
its end. -/
theorem Alone.ends_reconcile {I : World k → Prop} {elapsed : Duration} (hw : w.Alone)
    (hI : Overlooks I) (hpublish : ∀ w es, I w → I { w with events := es })
    (hend : ∀ w (o : Outcome), I w →
      I { w with metrics := w.metrics.recordReconcile k.name o.name elapsed })
    (htransition : ∀ r plan, w.store.get? key = some r →
      Ends (g.transition r) { w with plan := plan } (fun _ => I) (fun _ => I)) (h : I w) :
    Ends (g.reconcile key elapsed) w (fun _ => I) (fun _ => I) := by
  unfold Engine.reconcile
  simp only [ends_bind, ends_during]
  refine hw.around_planned (fun _ => ?_) fun _ _ => hI w _ _ h
  simp only [ends_bind, ends_get, ends_pure]
  cases hr : w.store.get? key with
  | none => exact hend _ .skipped (hI w _ _ h)
  | some r =>
    simp only [ends_bind, ends_attempt]
    refine (htransition r _ hr).imp ?_ ?_
    · intro next w₁ h₁
      exact hend w₁ .success h₁
    · intro f w₁ h₁
      exact hend _ .error (hpublish w₁ _ h₁)

end World

namespace Engine
variable {g : Engine k} {w : World k} {key : ObjectKey} {elapsed : Duration}

/-- How many entities a pass deletes again that it has just created. A pass on an object that is due
for creation deletes no others. -/
def undone (g : Engine k) (key : ObjectKey) (elapsed : Duration) (w : World k) : Nat :=
  if (w.store.get? key).any fun r => g.lifecycle r = .pendingCreation then
    (World.after (g.reconcile key elapsed) w).platform.changes.delete - w.platform.changes.delete
  else 0

/-- Whatever calls fail, a pass counts every change that it makes, but for an entity that it creates
and deletes again: of that it counts the creation. -/
theorem changes_of_pass (hw : w.Alone) (o : Operation) :
    let w' := World.after (g.reconcile key elapsed) w
    w'.platform.changes.of o + w.metrics.counted k o =
      w.platform.changes.of o + w'.metrics.counted k o +
        if o = .delete then g.undone key elapsed w else 0 := by
  intro w'
  by_cases hdue : (w.store.get? key).any fun r => g.lifecycle r = .pendingCreation
  · have h : Undoes w.metrics w.platform w'.metrics w'.platform := by
      refine World.Ends.after
        (P := fun w' => Undoes w.metrics w.platform w'.metrics w'.platform) ?_
      refine hw.ends_reconcile (fun _ _ _ h => h) (fun _ _ h => h) (fun _ _ h => ?_) ?_ ?_
      · exact ⟨h.others, h.deletions, h.grown⟩
      · intro r plan hr
        rw [hr] at hdue
        exact World.undoes_transition (Counts.undoes fun _ => rfl) (by simpa using hdue)
      · exact Counts.undoes fun _ => rfl
    rw [undone, if_pos hdue]
    cases o with
    | create | update =>
      rw [h.others _ (by simp)]
      rfl
    | delete =>
      have hgrown := h.grown
      rw [h.deletions, if_pos rfl]
      change w'.platform.changes.delete + _ =
        w.platform.changes.delete + _ + (w'.platform.changes.delete - w.platform.changes.delete)
      omega
  · have h : Counts w.metrics w.platform w'.metrics w'.platform := by
      refine World.Ends.after
        (P := fun w' => Counts w.metrics w.platform w'.metrics w'.platform) ?_
      refine hw.ends_reconcile (fun _ _ _ h => h) (fun _ _ h => h) (fun _ _ h => h) ?_ ?_
      · intro r plan hr
        rw [hr] at hdue
        exact World.counts_transition (fun _ => rfl) (by simpa using hdue)
      · exact fun _ => rfl
    rw [h o, undone, if_neg hdue, ite_self, Nat.add_zero]

end Engine

namespace Platform
variable {p₀ p p' : Platform k}

/-- What came and what went since the first moment makes up for what there is. -/
def Balances (p₀ p : Platform k) : Prop :=
  p.live + p.changes.delete + p₀.changes.create = p₀.live + p₀.changes.delete + p.changes.create

theorem Balances.trans (h : p₀.Balances p) (h' : p.Balances p') : p₀.Balances p' := by
  unfold Balances at *
  omega

theorem Balances.unaltered (h : p₀.Balances p) (hp : p.Unaltered p') : p₀.Balances p' := by
  unfold Balances live at *
  rw [hp.entities, hp.changes]
  exact h

theorem Balances.create (h : p₀.Balances p) (hnew : p.entity? p.nextId = none) (b : k.Body) :
    p₀.Balances (p.create b).2 := by
  rcases p.create_alters b with ⟨e, p', hs, hp⟩ | ⟨p', hs, he, hp⟩
  · exact hs ▸ h.unaltered hp
  · have hlive : p'.live = p.live + 1 := by
      rw [live, he, SortedMap.length_insert_of_none hnew, live]
    rw [hs]
    simp only [Balances, hlive, hp] at h ⊢
    omega

theorem Balances.update (h : p₀.Balances p) (id : String) (b : k.Body) :
    p₀.Balances (p.update id b).2 := by
  rcases p.update_alters id b with ⟨e, p', hs, hp⟩ | ⟨e, e', p', hs, hheld, he, hp⟩
  · exact hs ▸ h.unaltered hp
  · have hlive : p'.live = p.live := by
      rw [live, he, SortedMap.length_insert_of_some hheld, live]
    rw [hs]
    simp only [Balances, hlive, hp] at h ⊢
    omega

theorem Balances.delete (h : p₀.Balances p) (id : String) : p₀.Balances (p.delete id).2 := by
  rcases p.delete_alters id with ⟨e, p', hs, hp⟩ | ⟨e, p', hs, hheld, he, hp⟩
  · exact hs ▸ h.unaltered hp
  · have hlive : p'.live + 1 = p.live := by
      rw [live, he, SortedMap.length_erase_of_some hheld, live]
    rw [hs]
    simp only [Balances, hp] at h ⊢
    omega

end Platform

namespace World
variable {g : Engine k} {w : World k} {key : ObjectKey} {elapsed : Duration}

/-- With a fresh identifier, a pass makes and unmakes as many entities as the calls say that went
through. -/
theorem balances_pass (hw : w.Alone) (hnew : w.platform.entity? w.platform.nextId = none) :
    w.platform.Balances (after (g.reconcile key elapsed) w).platform := by
  refine Ends.after (P := fun w' => w.platform.Balances w'.platform) ?_
  have hsteps : CarriedBySteps fun w' : World k => w.platform.Balances w'.platform :=
    steps_of_unaltered (J := fun _ p => w.platform.Balances p) fun _ _ _ hp h => h.unaltered hp
  have h : w.platform.Balances w.platform := rfl
  refine hw.ends_reconcile (fun _ _ _ h => h) (fun _ _ h => h) (fun _ _ h => h) ?_ h
  intro r plan _
  refine hsteps.transition g (fun _ => ?_) (fun _ => ?_) (fun _ => ?_) h
  · refine hsteps.create h (fun b => ?_) (fun id => ?_) fun _ h => h
    · exact ends_counted_platform (P := w.platform.Balances) h (h.create hnew b)
    · exact carries_uncounted_call (J := fun _ p => w.platform.Balances p) fun _ _ h => h.delete id
  · exact hsteps.update (fun id b w₁ h => ends_counted_platform h (h.update id b)) (fun _ h => h)
      (fun _ h => h) _ h
  · have huntrack : Carries (fun w' : World k => w.platform.Balances w'.platform) r.untrack :=
      fun _ h => h
    exact (CarriedByRequests.delete (w := { w with plan := plan }) h
      (fun id => ends_counted_platform h (h.delete id)) huntrack).imp
      (fun _ _ h => (ite_self _).mp h) fun _ _ h => h

end World

namespace Chronicle
variable {g : Engine k} {c : Chronicle k} {d : Deed k}

/-- How many entities were created and deleted again, if the deed is a pass. -/
def undone (g : Engine k) (c : Chronicle k) : Deed k → Nat
  | .pass key elapsed circumstances => g.undone key elapsed (c.world.under circumstances)
  | _ => 0

theorem changes_after (hd : d.IsOwn) (o : Operation) :
    (c.after g d).world.platform.changes.of o + c.world.metrics.counted k o =
      c.world.platform.changes.of o + (c.after g d).world.metrics.counted k o +
        if o = .delete then c.undone g d else 0 := by
  cases d with
  | pass key elapsed circumstances => exact Engine.changes_of_pass (hd.under c.world) o
  | insert | edit | delete | removeEntity | editEntity => simp only [undone, ite_self]; rfl

/-- Nobody else changes the entities, and passes have fresh identifiers. -/
def Secludes (c : Chronicle k) : Deed k → Prop
  | .removeEntity _ | .editEntity .. => False
  | .pass _ _ circumstances => circumstances.AreOwn ∧ c.Fresh
  | .insert _ | .edit .. | .delete .. => True

theorem balances_after (hd : c.Secludes d) :
    c.world.platform.Balances (c.after g d).world.platform := by
  cases d with
  | pass key elapsed circumstances =>
    exact World.balances_pass (hd.1.under c.world) hd.2.unheld
  | removeEntity | editEntity => exact hd.elim
  | insert | edit | delete => exact rfl

end Chronicle

namespace Realm
variable {engines : (k : Kind) → Engine k} {R : Realm} {ds : List ((k : Kind) × Deed k)}

/-- How often the platform was changed by one operation of a kind's passes, the past before the run
included. -/
def changes (R : Realm) (k : Kind) (o : Operation) : Nat := (R.of k).world.platform.changes.of o

/-- How many entities of a kind there are. -/
def live (R : Realm) (k : Kind) : Nat := (R.of k).world.platform.live

/-- How many entities of a kind were created and deleted again in a run. -/
def undone (engines : (k : Kind) → Engine k) (k : Kind) :
    Realm → List ((k : Kind) × Deed k) → Nat
  | _, [] => 0
  | R, d :: ds => (if d.1 = k then (R.of d.1).undone (engines d.1) d.2 else 0) +
      undone engines k (R.after engines d) ds

theorem changes_of_run (hds : ∀ d ∈ ds, d.2.IsOwn) (k : Kind) (o : Operation) :
    let R' := ds.foldl (after engines) R
    R'.changes k o + R.metrics.counted k o = R.changes k o + R'.metrics.counted k o +
      if o = .delete then undone engines k R ds else 0 := by
  induction ds generalizing R with
  | nil => simp [undone]
  | cons d ds ih =>
    obtain ⟨k', d⟩ := d
    have hrest := ih (R := R.after engines ⟨k', d⟩) fun d' hd' =>
      hds d' (List.mem_cons_of_mem _ hd')
    have hfirst : (R.after engines ⟨k', d⟩).changes k o + R.metrics.counted k o =
        R.changes k o + (R.after engines ⟨k', d⟩).metrics.counted k o +
          if o = .delete then (if k' = k then (R.of k').undone (engines k') d else 0) else 0 := by
      by_cases hk : k = k'
      · subst hk
        have hd := Chronicle.changes_after (g := engines k) (c := R.of k)
          (hds ⟨k, d⟩ List.mem_cons_self) o
        simp only [changes, of_after_self, if_true]
        exact hd
      · have hsame := Chronicle.sameOf_after hk (engines k') (R.of k') d
        have hcounted : (R.after engines ⟨k', d⟩).metrics.counted k o = R.metrics.counted k o :=
          hsame.counted o
        simp only [changes, of_after_of_ne hk, hcounted, if_neg (Ne.symm hk), ite_self]
        rfl
    simp only [List.foldl_cons, undone]
    by_cases ho : o = .delete
    · rw [if_pos ho] at hfirst hrest ⊢
      omega
    · rw [if_neg ho] at hfirst hrest ⊢
      omega

theorem balances_of_run (k : Kind) (h : Along (after engines)
    (fun R d => d.1 = k → (R.of d.1).Secludes d.2) R ds) :
    (R.of k).world.platform.Balances ((ds.foldl (after engines) R).of k).world.platform := by
  refine invariant (I := fun c => (R.of k).world.platform.Balances c.world.platform) h ?_ ?_ rfl
  · intro R' d hd hbalances
    exact hbalances.trans (Chronicle.balances_after (hd rfl))
  · intro c m _ hbalances
    exact hbalances

/-- How often the passes of a kind changed the platform by one operation in a run. -/
def made (engines : (k : Kind) → Engine k) (R : Realm) (ds : List ((k : Kind) × Deed k)) (k : Kind)
    (o : Operation) : Nat := (ds.foldl (after engines) R).changes k o - R.changes k o

/-- Whichever calls fail in a run, the creations and updates that went through are counted, and the
deletions but those of entities that could not be recorded. So the counters tell the truth exactly
if there were none of these; and where nobody else changes the entities, creations less deletions of
both sorts are what came to live. -/
theorem operations_counted_but_undone (hfresh : R.metrics = .empty) (hds : ∀ d ∈ ds, d.2.IsOwn)
    (k : Kind) :
    let R' := ds.foldl (after engines) R
    R'.metrics.counted k .create = made engines R ds k .create ∧
      R'.metrics.counted k .update = made engines R ds k .update ∧
      R'.metrics.counted k .delete + undone engines k R ds = made engines R ds k .delete ∧
      ((∀ o, R'.metrics.counted k o = made engines R ds k o) ↔ undone engines k R ds = 0) ∧
      (Along (after engines) (fun R d => d.1 = k → (R.of d.1).Secludes d.2) R ds →
        R'.live k + R'.metrics.counted k .delete + undone engines k R ds =
          R.live k + R'.metrics.counted k .create) := by
  intro R'
  have hcounted (o) : R'.changes k o = R.changes k o + R'.metrics.counted k o +
      if o = .delete then undone engines k R ds else 0 := by
    have hrun := @changes_of_run engines R ds hds k o
    rw [hfresh] at hrun
    exact hrun
  have hmade (o) : made engines R ds k o = R'.metrics.counted k o +
      if o = .delete then undone engines k R ds else 0 := by
    have ho := hcounted o
    change R'.changes k o - R.changes k o = _
    omega
  refine ⟨(hmade .create).symm, (hmade .update).symm, (hmade .delete).symm, ?_, ?_⟩
  · constructor
    · intro htrue
      have hdelete := hmade .delete
      rw [← htrue .delete, if_pos rfl] at hdelete
      omega
    · intro hnone o
      rw [hmade, hnone, ite_self, Nat.add_zero]
  · intro hsecluded
    have hbalances : R'.live k + R'.changes k .delete + R.changes k .create =
        R.live k + R.changes k .delete + R'.changes k .create := balances_of_run k hsecluded
    have hcreate := hcounted .create
    have hdelete := hcounted .delete
    rw [if_pos rfl] at hdelete
    rw [if_neg (by simp)] at hcreate
    omega

/-- An entity cannot be recorded and is deleted again, the next one can, and another kind's pass
comes between. -/
theorem second_team_is_counted :
    let unwritten : Circumstances .team := .once .writeStatus (.fail (.other "down"))
    let ds : List ((k : Kind) × Deed k) := [⟨.team, .insert Sample.team⟩,
      ⟨.team, .pass Sample.key .zero unwritten⟩, ⟨.apiKey, .pass Sample.key .zero .calm⟩,
      ⟨.team, .pass Sample.key .zero .calm⟩]
    let R' := ds.foldl (after Sample.engines) Sample.realm
    Sample.realm.metrics = .empty ∧ (∀ d ∈ ds, d.2.IsOwn) ∧
      R'.metrics.counted .team .create = made Sample.engines Sample.realm ds .team .create ∧
      made Sample.engines Sample.realm ds .team .create = 2 ∧
      R'.live .team + R'.metrics.counted .team .delete + 1 = R'.metrics.counted .team .create := by
  intro unwritten ds R'
  have hunwritten : unwritten.ArePlain := Circumstances.once_arePlain rfl
  have hcalm {k : Kind} : (Circumstances.calm (k := k)).AreOwn :=
    Circumstances.calm_arePlain.areOwn
  have hown : ∀ d ∈ ds, d.2.IsOwn := by
    simp only [ds, List.forall_mem_cons]
    exact ⟨trivial, hunwritten.areOwn, hcalm, hcalm, by simp⟩
  have hcounts := @operations_counted_but_undone Sample.engines Sample.realm ds rfl hown .team
  have hsecluded : Along (after Sample.engines)
      (fun R d => d.1 = .team → (R.of d.1).Secludes d.2) Sample.realm ds := by
    refine ⟨fun _ => trivial, fun _ => ⟨hunwritten.areOwn, ?_⟩,
      fun h : Kind.apiKey = .team => absurd h (by decide), fun _ => ⟨hcalm, ?_⟩, trivial⟩
    · exact ⟨by decide, by decide, by decide⟩
    · exact ⟨by decide, by decide, by decide⟩
  have hundone : undone Sample.engines .team Sample.realm ds = 1 := by decide
  have hlive := hcounts.2.2.2.2 hsecluded
  rw [hundone] at hlive
  exact ⟨rfl, hown, hcounts.1, by decide, hlive.trans (Nat.zero_add _)⟩

/-- An entity that cannot be recorded is deleted again, and the deletion is not counted. -/
theorem undone_creation_is_not_counted :
    let unwritten : Circumstances .team := .once .writeStatus (.fail (.other "down"))
    let ds : List ((k : Kind) × Deed k) :=
      [⟨.team, .insert Sample.team⟩, ⟨.team, .pass Sample.key .zero unwritten⟩]
    Sample.realm.metrics = .empty ∧ (∀ d ∈ ds, d.2.IsOwn) ∧
      ¬ ∀ o, (ds.foldl (after Sample.engines) Sample.realm).metrics.counted .team o =
        made Sample.engines Sample.realm ds .team o := by
  intro unwritten ds
  have hunwritten : unwritten.ArePlain := Circumstances.once_arePlain rfl
  have hown : ∀ d ∈ ds, d.2.IsOwn := by
    simp only [ds, List.forall_mem_cons]
    exact ⟨trivial, hunwritten.areOwn, by simp⟩
  refine ⟨rfl, hown, fun htrue => ?_⟩
  have hdelete := htrue .delete
  exact absurd hdelete (by decide)

end Realm

end ResourceSync
