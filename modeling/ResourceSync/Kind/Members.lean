/-! Lists that stand for sets. -/
namespace ResourceSync

/-- The list without those members that an equal one follows. -/
def withoutRepeats : List String → List String
  | [] => []
  | s :: l => if l.head? = some s then withoutRepeats l else s :: withoutRepeats l

/-- The members of a list in ascending order, each of them once. -/
def sortedMembers (l : List String) : List String := withoutRepeats l.mergeSort

/-- Whether two lists have the same members, in whatever order and however often. -/
def sameMembers (a b : List String) : Bool := sortedMembers a = sortedMembers b

section
variable {a b l : List String} {s : String}

theorem mem_withoutRepeats : s ∈ withoutRepeats l ↔ s ∈ l := by
  induction l with
  | nil => rfl
  | cons t l ih =>
    rw [withoutRepeats]
    split
    · next hrepeat =>
      have ht : t ∈ l := List.mem_of_head? hrepeat
      rw [ih, List.mem_cons]
      exact ⟨Or.inr, fun h => h.elim (fun heq => heq ▸ ht) id⟩
    · rw [List.mem_cons, List.mem_cons, ih]

/-- In an ascending list a member that occurs again does so at once. -/
theorem head?_eq_of_mem (h : (s :: l).Pairwise (· ≤ ·)) (hs : s ∈ l) : l.head? = some s := by
  obtain ⟨hleast, hl⟩ := List.pairwise_cons.1 h
  cases l with
  | nil => cases hs
  | cons t l =>
    rcases List.mem_cons.1 hs with rfl | hs
    · rfl
    · have hle : t ≤ s := (List.pairwise_cons.1 hl).1 s hs
      exact congrArg some (String.le_antisymm hle (hleast t List.mem_cons_self))

theorem pairwise_withoutRepeats (h : l.Pairwise (· ≤ ·)) :
    (withoutRepeats l).Pairwise (· < ·) := by
  induction l with
  | nil => exact .nil
  | cons s l ih =>
    obtain ⟨hleast, hl⟩ := List.pairwise_cons.1 h
    rw [withoutRepeats]
    split
    · exact ih hl
    · next hlast =>
      refine List.pairwise_cons.2 ⟨?_, ih hl⟩
      intro t ht
      have hmem : t ∈ l := mem_withoutRepeats.1 ht
      refine String.not_le.1 ?_
      intro hle
      obtain rfl : t = s := String.le_antisymm hle (hleast t hmem)
      exact hlast (head?_eq_of_mem h hmem)

theorem mem_sortedMembers : s ∈ sortedMembers l ↔ s ∈ l := by
  rw [sortedMembers, mem_withoutRepeats, List.mem_mergeSort]

theorem pairwise_sortedMembers (l : List String) : (sortedMembers l).Pairwise (· < ·) := by
  have htrans (r s t : String) (hrs : decide (r ≤ s) = true) (hst : decide (s ≤ t) = true) :
      decide (r ≤ t) = true :=
    decide_eq_true (String.le_trans (of_decide_eq_true hrs) (of_decide_eq_true hst))
  have htotal (s t : String) : (decide (s ≤ t) || decide (t ≤ s)) = true := by
    simpa using String.le_total s t
  have hsorted : l.mergeSort.Pairwise fun s t => decide (s ≤ t) = true :=
    List.pairwise_mergeSort htrans htotal l
  exact pairwise_withoutRepeats (hsorted.imp of_decide_eq_true)

theorem nodup_sortedMembers (l : List String) : (sortedMembers l).Nodup := by
  refine (pairwise_sortedMembers l).imp ?_
  rintro s t hlt rfl
  exact String.lt_irrefl s hlt

theorem sameMembers_iff : sameMembers a b = true ↔ ∀ s, s ∈ a ↔ s ∈ b := by
  have hmem : (∀ s, s ∈ a ↔ s ∈ b) ↔ ∀ s, s ∈ sortedMembers a ↔ s ∈ sortedMembers b := by
    simp only [mem_sortedMembers]
  rw [sameMembers, decide_eq_true_eq, hmem]
  constructor
  · intro h s
    rw [h]
  · intro h
    -- two ascending lists without repeats are permuted only if they are equal
    refine List.Perm.eq_of_pairwise ?_ (pairwise_sortedMembers a) (pairwise_sortedMembers b)
      ((List.perm_ext_iff_of_nodup (nodup_sortedMembers a) (nodup_sortedMembers b)).2 h)
    intro s t _ _ hst hts
    exact absurd (String.lt_trans hst hts) (String.lt_irrefl s)

end

end ResourceSync
