import ResourceSync.Proofs.Calm
import ResourceSync.Proofs.History

/-! A finalizer is put on or taken off by writing the whole list anew, from the object as it was
read. Whether that keeps what others did to the list in between depends on the read alone, as the
write is not guarded by the version. -/
namespace ResourceSync

variable {k : Kind}

open World

namespace Resource
variable {r s : Resource k} {finalizer : String} {wanted : Bool}

/-- What the stored object is to become when a finalizer is put on it or taken off: everyone else's
stay, in order, and it goes away only where there are none. -/
def Amended (s : Resource k) (finalizer : String) (wanted : Bool) : Option (Resource k) → Prop
  | some s' => s'.otherFinalizers finalizer = s.otherFinalizers finalizer ∧
      s'.hasFinalizer finalizer = wanted
  | none => s.otherFinalizers finalizer = [] ∧ wanted = false

/-- The object as it was read tells what is to be written on the stored one. -/
def StandsFor (r s : Resource k) (finalizer : String) (wanted : Bool) : Prop :=
  if r.hasFinalizer finalizer = wanted then s.hasFinalizer finalizer = wanted
  else r.otherFinalizers finalizer = s.otherFinalizers finalizer

/-- The list of finalizers after one of them is put on or taken off. -/
def finalizersWith (r : Resource k) (finalizer : String) : Bool → List String
  | true => r.metadata.finalizerList ++ [finalizer]
  | false => r.otherFinalizers finalizer

theorem contains_finalizersWith (r : Resource k) (finalizer : String) (wanted : Bool) :
    (r.finalizersWith finalizer wanted).contains finalizer = wanted := by
  cases wanted <;> simp [finalizersWith, otherFinalizers]

theorem filter_finalizersWith (r : Resource k) (finalizer : String) (wanted : Bool) :
    (r.finalizersWith finalizer wanted).filter (fun f => f ≠ finalizer) =
      r.otherFinalizers finalizer := by
  cases wanted <;> simp [finalizersWith, otherFinalizers]

theorem amended_self_iff : s.Amended finalizer wanted (some s) ↔
    s.hasFinalizer finalizer = wanted := and_iff_right rfl

/-- A list that was worked out from one object suits another, if everyone else's finalizers are the
same on both. -/
theorem amended_refinalized_iff (store : Store k) : s.Amended finalizer wanted
      (store.refinalized s (r.finalizersWith finalizer wanted)) ↔
    r.otherFinalizers finalizer = s.otherFinalizers finalizer := by
  have hcontains := contains_finalizersWith r finalizer wanted
  have hothers := filter_finalizersWith r finalizer wanted
  cases hs : store.refinalized s (r.finalizersWith finalizer wanted) with
  | none =>
    obtain ⟨-, hnil⟩ := Store.refinalized_eq_none_iff.1 hs
    rw [hnil] at hcontains hothers
    simp only [Amended, ← hothers, ← hcontains, List.contains_nil, List.filter_nil, and_true,
      eq_comm]
  | some s' =>
    obtain ⟨-, -, hfin⟩ := Store.refinalized_eq_some hs
    have hlist : s'.metadata.finalizerList = r.finalizersWith finalizer wanted := by
      simp only [Metadata.finalizerList, hfin, Option.getD_some]
    have hkept : s'.otherFinalizers finalizer = r.otherFinalizers finalizer := by
      rw [otherFinalizers, hlist, hothers]
    have hwanted : s'.hasFinalizer finalizer = wanted := by
      rw [hasFinalizer, hlist, hcontains]
    simp only [Amended, hkept, hwanted, and_true]

end Resource

/-- Puts a finalizer on, or takes it off. -/
def setFinalizer (r : Resource k) (finalizer : String) (wanted : Bool) : Run k Unit :=
  if wanted then ensureFinalizer r finalizer else removeFinalizer r finalizer

theorem setFinalizer_eq (r : Resource k) (finalizer : String) (wanted : Bool) :
    setFinalizer r finalizer wanted =
      if r.hasFinalizer finalizer = wanted then return ()
      else patchFinalizers r (r.finalizersWith finalizer wanted) := by
  cases wanted with
  | true => rfl
  | false =>
    unfold setFinalizer removeFinalizer
    cases r.hasFinalizer finalizer <;> rfl

section update
variable {w : World k} {r s : Resource k}

/-- Putting a finalizer on an object or taking it off, by a read that may be out of date: where it
succeeds everyone else's finalizers are kept exactly if the read tells what is to be written. It
fails only where its call does, and then nothing changes. -/
theorem finalizer_update_exact (hw : w.Alone) (hs : w.store.get? r.key = some s)
    (finalizer : String) (wanted : Bool) :
    Ends (setFinalizer r finalizer wanted) w
      (fun _ w' => s.Amended finalizer wanted (w'.store.get? r.key) ↔
        r.StandsFor s finalizer wanted)
      (fun _ w' => w'.store.get? = w.store.get? ∧
        ∃ cause, .fail cause ∈ w.plan .patchFinalizers) := by
  rw [setFinalizer_eq]
  unfold Resource.StandsFor
  by_cases hread : r.hasFinalizer finalizer = wanted
  · rw [if_pos hread, if_pos hread, ends_pure, hs]
    exact Resource.amended_self_iff
  · rw [if_neg hread, if_neg hread]
    refine hw.around (fun p _ => ?_) fun _ cause _ hcause => ⟨rfl, cause, hcause⟩
    obtain ⟨store, hpatch, -, ho⟩ :=
      Store.patchFinalizers_calm hs (r.finalizersWith finalizer wanted)
    rw [ends_onStore]
    dsimp only
    rw [hpatch]
    dsimp only
    rw [ho, Function.update_self]
    exact Resource.amended_refinalized_iff w.store

end update

/-- A team with the finalizer of its kind, as it was read. -/
def Sample.guarded : Resource .team :=
  { Sample.team with
    metadata :=
      { Sample.team.metadata with
        inNamespace := some "default"
        resourceVersion := some "1"
        finalizers := some [Kind.team.finalizer] } }

/-- The same team, after someone else has put a finalizer on it and it was marked for deletion. -/
def Sample.held : Resource .team :=
  { Sample.guarded with
    metadata :=
      { Sample.guarded.metadata with
        resourceVersion := some "3"
        deletionTimestamp := some .earliest
        finalizers := some [Kind.team.finalizer, "other.io/hold"] } }

/-- The read came first, then the other finalizer and the deletion. -/
def Sample.heldSince : World .team :=
  let grown : Resource .team :=
    { Sample.guarded with metadata := { Sample.held.metadata with deletionTimestamp := none } }
  let store := (Store.empty.insert Sample.guarded).put Sample.key grown
  { (World.empty [] : World .team) with store := store.delete Sample.key .earliest }

/-- Worked out from the object as it is, the update keeps the other finalizer. -/
theorem held_object_stays :
    let w := Sample.heldSince
    let w' := World.after (removeFinalizer Sample.held Kind.team.finalizer) w
    removeFinalizer Sample.held Kind.team.finalizer w = .ok () w' ∧
      Sample.held.Amended Kind.team.finalizer false (w'.store.get? Sample.key) := by
  intro w w'
  have hw : w.Alone := fun _ _ ht => (List.not_mem_nil ht).elim
  have hs : w.store.get? Sample.held.key = some Sample.held := rfl
  have hok : setFinalizer Sample.held Kind.team.finalizer false w = .ok () w' := rfl
  have hexact := (finalizer_update_exact hw hs Kind.team.finalizer false).of_ok hok
  exact ⟨hok, hexact.2 rfl⟩

/-- Worked out from the earlier read, it loses the other finalizer, and the object vanishes. -/
theorem held_object_vanishes :
    let w := Sample.heldSince
    let w' := World.after (removeFinalizer Sample.guarded Kind.team.finalizer) w
    (Store.empty.insert Sample.guarded).get? Sample.key = some Sample.guarded ∧
      w.store.get? Sample.key = some Sample.held ∧
      Sample.held.otherFinalizers Kind.team.finalizer = ["other.io/hold"] ∧
      removeFinalizer Sample.guarded Kind.team.finalizer w = .ok () w' ∧
      w'.store.get? Sample.key = none ∧
      ¬ Sample.held.Amended Kind.team.finalizer false (w'.store.get? Sample.key) := by
  intro w w'
  have hgone : w'.store.get? Sample.key = none := by decide +kernel
  refine ⟨rfl, rfl, rfl, rfl, hgone, ?_⟩
  rw [hgone]
  rintro ⟨hothers, -⟩
  cases hothers

end ResourceSync
