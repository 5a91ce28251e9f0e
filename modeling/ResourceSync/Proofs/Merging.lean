import Mathlib.Data.List.Nodup
import Mathlib.Data.List.Perm.Basic
import ResourceSync.Json.MergePatch

/-! Merge patches by what is found under each name, for objects whose names are distinct. -/
namespace ResourceSync.Json

variable {name name' : String} {value : Json} {ms ms' old new patch : List (String × Json)}

def names (ms : List (String × Json)) : List String := ms.map Prod.fst

@[simp] theorem find?_nil : find? name [] = none := rfl

theorem find?_cons : find? name ((name', value) :: ms) =
    if name' = name then some value else find? name ms := by
  by_cases h : name' = name <;> simp [find?, h]

theorem find?_append : find? name (ms ++ ms') = (find? name ms).or (find? name ms') := by
  simp only [find?, List.find?_append]
  cases ms.find? fun m => m.1 == name <;> rfl

theorem find?_eq_none_iff : find? name ms = none ↔ name ∉ names ms := by
  simp only [find?, names, Option.map_eq_none_iff, List.find?_eq_none, List.mem_map, not_exists,
    not_and, beq_iff_eq]

theorem mem_iff_find?_eq_some (h : (names ms).Nodup) :
    (name, value) ∈ ms ↔ find? name ms = some value := by
  induction ms with
  | nil => simp
  | cons m ms ih =>
    obtain ⟨n, v⟩ := m
    obtain ⟨hn, hms⟩ := List.nodup_cons.1 h
    rw [find?_cons, List.mem_cons, ih hms, Prod.mk.injEq]
    split
    · next heq =>
      subst heq
      have hnone : find? n ms = none := find?_eq_none_iff.2 hn
      simp [hnone, eq_comm]
    · next heq => simp [Ne.symm heq]

/-- Objects in which the same is found under every name differ in the order of their members. -/
theorem perm_of_find?_eq (h : (names ms).Nodup) (h' : (names ms').Nodup)
    (heq : ∀ name, find? name ms = find? name ms') : ms.Perm ms' := by
  refine (List.perm_ext_iff_of_nodup (h.of_map _) (h'.of_map _)).2 ?_
  rintro ⟨name, value⟩
  rw [mem_iff_find?_eq_some h, mem_iff_find?_eq_some h', heq]

theorem find?_eq_of_perm (h : (names ms).Nodup) (hperm : ms.Perm ms') (name : String) :
    find? name ms = find? name ms' := by
  have h' : (names ms').Nodup := (hperm.map Prod.fst).nodup_iff.1 h
  refine Option.ext ?_
  intro value
  rw [← mem_iff_find?_eq_some h, ← mem_iff_find?_eq_some h', hperm.mem_iff]

theorem find?_withoutMember : find? name' (withoutMember name ms) =
    if name' = name then none else find? name' ms := by
  induction ms with
  | nil => simp [withoutMember]
  | cons m ms ih =>
    obtain ⟨n, v⟩ := m
    unfold withoutMember at ih ⊢
    rw [List.filter_cons]
    split
    · next hn =>
      have hn : n ≠ name := by simpa using hn
      simp only [find?_cons, ih]
      by_cases h : n = name'
      · subst h
        simp [hn]
      · simp [h]
    · next hn =>
      obtain rfl : n = name := by simpa using hn
      rw [ih, find?_cons]
      by_cases h : n = name'
      · simp [h]
      · simp [h, Ne.symm h]

theorem find?_setMember : find? name' (setMember name value ms) =
    if name' = name then some value else find? name' ms := by
  induction ms with
  | nil => simp [setMember, find?_cons, eq_comm]
  | cons m ms ih =>
    obtain ⟨n, v⟩ := m
    rw [setMember]
    split
    · next hn =>
      subst hn
      by_cases h : n = name'
      · simp [find?_cons, h]
      · simp [find?_cons, h, Ne.symm h]
    · next hn =>
      simp only [find?_cons, ih]
      by_cases h : n = name'
      · subst h
        simp [hn]
      · simp [h]

theorem names_withoutMember : names (withoutMember name ms) = (names ms).filter (· != name) := by
  simp only [names, withoutMember, List.filter_map]
  rfl

theorem names_setMember : names (setMember name value ms) =
    if name ∈ names ms then names ms else names ms ++ [name] := by
  induction ms with
  | nil => rfl
  | cons m ms ih =>
    obtain ⟨n, v⟩ := m
    rw [setMember]
    split
    · next hn => simp [names, hn]
    · next hn =>
      simp only [names, List.map_cons, List.mem_cons] at ih ⊢
      rw [ih]
      by_cases h : name ∈ ms.map Prod.fst <;> simp [h, Ne.symm hn]

theorem nodup_withoutMember (h : (names ms).Nodup) : (names (withoutMember name ms)).Nodup :=
  names_withoutMember ▸ h.filter _

theorem nodup_setMember (h : (names ms).Nodup) : (names (setMember name value ms)).Nodup := by
  rw [names_setMember]
  split
  · exact h
  · next hn => simpa using List.Nodup.concat hn h

theorem nodup_mergeMembers (h : (names ms).Nodup) : (names (mergeMembers ms patch)).Nodup := by
  induction patch generalizing ms with
  | nil => exact h
  | cons m patch ih =>
    obtain ⟨n, v⟩ := m
    rw [mergeMembers]
    split
    · exact ih (nodup_withoutMember h)
    · exact ih (nodup_setMember h)

/-- What becomes of a member under the member of a patch with its name, where there is one. -/
def mergedMember (old : Option Json) : Option Json → Option Json
  | none => old
  | some patch => if patch.isNull then none else some (mergePatch (old.getD .null) patch)

theorem find?_mergeMembers (h : (names patch).Nodup) : find? name (mergeMembers ms patch) =
    mergedMember (find? name ms) (find? name patch) := by
  induction patch generalizing ms with
  | nil => rfl
  | cons m patch ih =>
    obtain ⟨n, v⟩ := m
    obtain ⟨hn, hpatch⟩ := List.nodup_cons.1 h
    have hnone : find? n patch = none := find?_eq_none_iff.2 hn
    rw [mergeMembers, find?_cons]
    by_cases heq : n = name
    · subst heq
      split
      · next hnull => simp [ih hpatch, hnone, find?_withoutMember, mergedMember, hnull]
      · next hnull => simp [ih hpatch, hnone, find?_setMember, mergedMember, hnull]
    · rw [if_neg heq]
      split
      · simp [ih hpatch, find?_withoutMember, Ne.symm heq]
      · simp [ih hpatch, find?_setMember, Ne.symm heq]

/-- Neither null nor an object: what a patch puts in the place of whatever it meets. -/
def IsPlain : Json → Prop
  | .null | .obj _ => False
  | _ => True

theorem mergedMember_of_isPlain {old : Option Json} (h : value.IsPlain) :
    mergedMember old (some value) = some value := by
  cases value <;> first | exact h.elim | rfl

/-- The members of a replacement patch that take away what is gone. -/
def removals (old new : List (String × Json)) : List (String × Json) :=
  (old.filter fun m => (find? m.1 new).isNone).map fun m => (m.1, .null)

theorem names_removals :
    names (removals old new) = (names old).filter fun name => (find? name new).isNone := by
  simp only [names, removals, List.map_map, List.filter_map]
  rfl

theorem find?_removals (old : List (String × Json)) (h : find? name new = none) :
    find? name (removals old new) = none ∧ find? name old = none ∨
      find? name (removals old new) = some .null := by
  cases hfound : find? name (removals old new) with
  | none =>
    refine Or.inl ⟨rfl, ?_⟩
    rw [find?_eq_none_iff, names_removals, List.mem_filter] at hfound
    rw [find?_eq_none_iff]
    intro hmem
    exact hfound ⟨hmem, by simp [h]⟩
  | some value =>
    refine Or.inr ?_
    obtain ⟨m, hm, rfl⟩ := Option.map_eq_some_iff.1 hfound
    obtain ⟨m', -, rfl⟩ := List.mem_map.1 (List.mem_of_find?_eq_some hm)
    rfl

/-- A replacement patch takes away what is gone and sets what is there. -/
theorem mergeMembers_removals (hold : (names old).Nodup) (hnew : (names new).Nodup)
    (hplain : ∀ m ∈ new, m.2.IsPlain) : (mergeMembers old (new ++ removals old new)).Perm new := by
  have hpatch : (names (new ++ removals old new)).Nodup := by
    have hgone : (names (removals old new)).Nodup := names_removals ▸ hold.filter _
    rw [names, List.map_append]
    refine hnew.append hgone ?_
    intro name hmem hremoved
    have hremoved : name ∈ names (removals old new) := hremoved
    rw [names_removals, List.mem_filter, Option.isNone_iff_eq_none, find?_eq_none_iff] at hremoved
    exact hremoved.2 hmem
  refine perm_of_find?_eq (nodup_mergeMembers hold) hnew ?_
  intro name
  rw [find?_mergeMembers hpatch, find?_append]
  cases hfound : find? name new with
  | some value =>
    exact mergedMember_of_isPlain (hplain (name, value) ((mem_iff_find?_eq_some hnew).2 hfound))
  | none =>
    rw [Option.none_or]
    rcases find?_removals old hfound with ⟨hnone, hold'⟩ | hnull
    · rw [hnone, hold']
      rfl
    · rw [hnull]
      rfl

/-- Merging the patch that turns one object into another gives the other, whatever the one holds. -/
theorem mergePatch_replacementPatch (hold : (names old).Nodup) (hnew : (names new).Nodup)
    (hplain : ∀ m ∈ new, m.2.IsPlain) :
    ∃ ms, (Json.obj old).mergePatch (replacementPatch (some (.obj old)) (.obj new)) = .obj ms ∧
      ms.Perm new :=
  ⟨_, rfl, mergeMembers_removals hold hnew hplain⟩

end ResourceSync.Json
