import ResourceSync.Proofs.Accounting
import ResourceSync.Proofs.Counting

/-! The chronicles of all kinds side by side. Each kind has its own objects and entities, and one
set of metrics is shared. -/
namespace ResourceSync

theorem Kind.name_injective : Function.Injective Kind.name := by
  intro k k' h
  cases k <;> cases k' <;> first | rfl | exact absurd h (by decide)

theorem Operation.name_injective : Function.Injective Operation.name := by
  intro o o' h
  cases o <;> cases o' <;> first | rfl | exact absurd h (by decide)

namespace Metrics
variable {k k' : Kind} {m m' m'' : Metrics}

/-- What was counted of a kind's operations is the same, and where its resources stand. -/
structure SameOf (k : Kind) (m m' : Metrics) : Prop where
  operations : ∀ l, m'.operations.get? (k.name :: l) = m.operations.get? (k.name :: l)
  types : ∀ l, m'.types.get? (k.name :: l) = m.types.get? (k.name :: l)
  resources : ∀ l, m'.resources.get? (k.name :: l) = m.resources.get? (k.name :: l)

theorem SameOf.refl (k : Kind) (m : Metrics) : SameOf k m m :=
  ⟨fun _ => rfl, fun _ => rfl, fun _ => rfl⟩

theorem SameOf.trans (h : SameOf k m m') (h' : SameOf k m' m'') : SameOf k m m'' :=
  ⟨fun l => (h'.operations l).trans (h.operations l), fun l => (h'.types l).trans (h.types l),
    fun l => (h'.resources l).trans (h.resources l)⟩

/-- A note on one kind leaves the others alone. -/
theorem sameOf_note (h : k' ≠ k) (m : Metrics) (n : Note) : SameOf k' m (m.note k.name n) := by
  have hname : k'.name ≠ k.name := Kind.name_injective.ne h
  cases n with
  | operation o =>
    exact ⟨fun l => SortedMap.get?_insert_of_ne (by simp [hname]), fun _ => rfl, fun _ => rfl⟩
  | ended o elapsed => exact ⟨fun _ => rfl, fun _ => rfl, fun _ => rfl⟩
  | stands key type =>
    refine ⟨fun l => ?_, fun l => ?_, fun l => ?_⟩
    · obtain ⟨types, resources, heq⟩ := note_stands m k.name key type
      rw [heq]
    · rw [types_note_stands, Function.update_of_ne (by simp [labels, hname])]
    · rw [resources_note_stands]
      unfold restated labels
      split
      · next heq =>
        obtain ⟨_, -, heq⟩ := Option.map_eq_some_iff.1 heq
        exact absurd (List.cons.inj heq).1.symm hname
      · split
        · next heq =>
          obtain ⟨_, -, heq⟩ := Option.map_eq_some_iff.1 heq
          exact absurd (List.cons.inj heq).1.symm hname
        · rfl

end Metrics

namespace World
variable {k k' : Kind}

/-- A pass takes notes on its own kind alone. -/
theorem sameOf_carried (h : k' ≠ k) (m : Metrics) :
    CarriedByCalls fun w : World k => m.SameOf k' w.metrics :=
  carriedByCalls_metrics (fun m₁ o hm => hm.trans (Metrics.sameOf_note h m₁ (.operation o)))
    (fun m₁ r hm => hm.trans (Metrics.sameOf_note h m₁ (.stands r.key r.typeLabel)))
    fun m₁ r hm => hm.trans (Metrics.sameOf_note h m₁ (.stands r.key none))

end World

/-- The chronicle with other metrics. -/
def Chronicle.measured {k : Kind} (c : Chronicle k) (m : Metrics) : Chronicle k :=
  { c with world := { c.world with metrics := m } }

/-- Whatever is done among the resources of one kind, nothing is noted about another. -/
theorem Chronicle.sameOf_after {k k' : Kind} (h : k' ≠ k) (g : Engine k) (c : Chronicle k)
    (d : Deed k) : c.world.metrics.SameOf k' (c.after g d).world.metrics := by
  cases d with
  | insert | edit | delete | removeEntity | editEntity => exact .refl _ _
  | pass key elapsed circumstances =>
    refine World.Ends.after (P := fun w => c.world.metrics.SameOf k' w.metrics) ?_
    refine (World.sameOf_carried h c.world.metrics).reconcile g key elapsed ?_ _ (.refl _ _)
    intro outcome w hm
    exact hm.trans (Metrics.sameOf_note h w.metrics (.ended outcome elapsed))

/-- The chronicles of all kinds, and the metrics they share. -/
structure Realm where
  parts : (k : Kind) → Chronicle k
  metrics : Metrics

namespace Realm
variable {engines : (k : Kind) → Engine k} {R : Realm} {k k' : Kind}

/-- The chronicle of one kind, as its passes see it. -/
def of (R : Realm) (k : Kind) : Chronicle k := (R.parts k).measured R.metrics

/-- Something is done among the resources of one kind. -/
def after (engines : (k : Kind) → Engine k) (R : Realm) (d : (k : Kind) × Deed k) : Realm :=
  let c := (R.of d.1).after (engines d.1) d.2
  ⟨Function.update R.parts d.1 c, c.world.metrics⟩

theorem of_after_self (R : Realm) (d : Deed k) :
    (R.after engines ⟨k, d⟩).of k = (R.of k).after (engines k) d := by
  simp only [of, after, Function.update_self]
  rfl

theorem of_after_of_ne (h : k' ≠ k) (R : Realm) (d : Deed k) :
    (R.after engines ⟨k, d⟩).of k' =
      (R.of k').measured ((R.of k).after (engines k) d).world.metrics := by
  simp only [of, after, Function.update_of_ne h]
  rfl

/-- A deed is one among the resources of a kind, or it takes no notes on them. -/
theorem of_after_cases (k : Kind) (R : Realm) (d : (k : Kind) × Deed k) :
    (∃ d', d = ⟨k, d'⟩ ∧ (R.after engines d).of k = (R.of k).after (engines k) d') ∨
      d.1 ≠ k ∧ ∃ m, (R.of k).world.metrics.SameOf k m ∧
        (R.after engines d).of k = (R.of k).measured m := by
  obtain ⟨k', d⟩ := d
  by_cases heq : k = k'
  · subst heq
    exact Or.inl ⟨d, rfl, of_after_self R d⟩
  · exact Or.inr ⟨Ne.symm heq, _, Chronicle.sameOf_after heq (engines k') (R.of k') d,
      of_after_of_ne heq R d⟩

/-- What one kind's deeds keep, and what does not depend on the notes about other kinds, a run of
deeds among all kinds keeps. -/
theorem invariant {allowed : Realm → ((k : Kind) × Deed k) → Prop} {I : Chronicle k → Prop}
    {ds : List ((k : Kind) × Deed k)} (h : Along (after engines) allowed R ds)
    (keep : ∀ R d, allowed R ⟨k, d⟩ → I (R.of k) → I ((R.of k).after (engines k) d))
    (elsewhere : ∀ c m, c.world.metrics.SameOf k m → I c → I (c.measured m)) (hI : I (R.of k)) :
    I ((ds.foldl (after engines) R).of k) := by
  refine h.invariant (I := fun R => I (R.of k)) ?_ hI
  intro R d hd hI
  rcases @of_after_cases engines k R d with ⟨d', rfl, heq⟩ | ⟨-, m, hsame, heq⟩
  · exact heq ▸ keep R d' hd hI
  · exact heq ▸ elsewhere _ m hsame hI

end Realm

namespace Sample

/-- An engine for each kind, without a selector. -/
def engines (k : Kind) : Engine k := ⟨.everything, .zero, .zero⟩

/-- Nothing was done or measured yet. -/
def realm : Realm := ⟨fun _ => ⟨.empty ["e-1", "e-2"], fun _ => 0, [], []⟩, .empty⟩

end Sample

end ResourceSync
