import ResourceSync.Proofs.Rereading

/-! Selectors are refused for their parentheses exactly if these are not balanced, and what is
accepted of them is well formed. -/
namespace ResourceSync

open Text

namespace Requirement

/-- A key without blanks; values and members without blanks around them; a set of one member or
more, none of them empty. -/
def IsWellFormed : Requirement → Prop
  | equals key value | notEquals key value => Selector.ValidKey key.toList ∧ Bare value.toList
  | oneOf key members | noneOf key members =>
    Selector.ValidKey key.toList ∧ members ≠ [] ∧ ∀ m ∈ members, m ≠ "" ∧ Bare m.toList
  | present key | absent key => Selector.ValidKey key.toList

end Requirement

namespace Selector
variable {d : Nat} {c : Char} {s raw head key operator inside behind : List Char}
  {r : Requirement} {fault : SelectorFault}

section balance

/-- No beginning of the text closes more parentheses than it opens, and the whole of it closes all
that it opens. -/
structure Balanced (s : List Char) : Prop where
  opened : ∀ p, p <+: s → p.count ')' ≤ p.count '('
  closed : s.count '(' ≤ s.count ')'

/-- Behind `d` open parentheses some beginning of the text closes more than are open. -/
def Overcloses (d : Nat) (s : List Char) : Prop := ∃ p, p <+: s ∧ d + p.count '(' < p.count ')'

theorem balanced_iff : Balanced s ↔ ¬ Overcloses 0 s ∧ ¬ s.count ')' < 0 + s.count '(' := by
  rw [Nat.zero_add, Nat.not_lt]
  constructor
  · rintro ⟨hopened, hclosed⟩
    refine ⟨?_, hclosed⟩
    rintro ⟨p, hp, hlt⟩
    have hle := hopened p hp
    omega
  · rintro ⟨hopened, hclosed⟩
    refine ⟨fun p hp => ?_, hclosed⟩
    by_contra hlt
    exact hopened ⟨p, hp, by omega⟩

/-- How many parentheses are open behind a character. -/
def depthBehind (d : Nat) (c : Char) : Nat :=
  if c = '(' then d + 1 else if c = ')' then d - 1 else d

theorem depthBehind_add_count (h : ¬ (c = ')' ∧ d = 0)) (s : List Char) :
    depthBehind d c + s.count '(' + (c :: s).count ')' =
      d + (c :: s).count '(' + s.count ')' := by
  unfold depthBehind
  rw [List.count_cons, List.count_cons]
  by_cases hopen : c = '('
  · simp [hopen]
    omega
  · by_cases hclose : c = ')'
    · have hd : d ≠ 0 := fun hd => h ⟨hclose, hd⟩
      simp [hclose]
      omega
    · simp [hopen, hclose]

theorem overcloses_close (s : List Char) : Overcloses 0 (')' :: s) :=
  ⟨[')'], by simp, by decide⟩

theorem overcloses_cons (h : ¬ (c = ')' ∧ d = 0)) :
    Overcloses d (c :: s) ↔ Overcloses (depthBehind d c) s := by
  constructor
  · rintro ⟨p, hp, hlt⟩
    rcases List.prefix_cons_iff.1 hp with rfl | ⟨q, rfl, hq⟩
    · simp at hlt
    · have hcount := depthBehind_add_count h q
      exact ⟨q, hq, by omega⟩
  · rintro ⟨q, hq, hlt⟩
    have hcount := depthBehind_add_count h q
    exact ⟨c :: q, List.prefix_cons_iff.2 (.inr ⟨q, rfl, hq⟩), by omega⟩

/-- Behind a character the text is split on, whatever becomes of the character. -/
theorem exists_splitParts_cons (h : ¬ (c = ')' ∧ d = 0)) (s : List Char) :
    ∃ f, splitParts d (c :: s) = (splitParts (depthBehind d c) s).map f := by
  rw [splitParts.eq_def]
  dsimp only
  unfold depthBehind
  by_cases hopen : c = '('
  · rw [if_pos hopen, if_pos hopen]
    exact ⟨_, rfl⟩
  · rw [if_neg hopen, if_neg hopen]
    by_cases hclose : c = ')'
    · rw [if_pos hclose, if_pos hclose]
      cases d with
      | zero => exact absurd ⟨hclose, rfl⟩ h
      | succ d => exact ⟨_, rfl⟩
    · rw [if_neg hclose, if_neg hclose]
      by_cases hcomma : c = ',' ∧ d = 0
      · rw [if_pos hcomma, hcomma.2]
        exact ⟨_, rfl⟩
      · rw [if_neg hcomma]
        exact ⟨_, rfl⟩

theorem splitParts_close (s : List Char) : splitParts 0 (')' :: s) = .error .unexpectedClose := by
  rw [splitParts.eq_def]
  rfl

/-- A text cannot be split at its commas for one of two faults. -/
theorem splitParts_eq_error_iff : splitParts d s = .error fault ↔
    Overcloses d s ∧ fault = .unexpectedClose ∨
      ¬ Overcloses d s ∧ s.count ')' < d + s.count '(' ∧ fault = .unclosedOpen := by
  induction s generalizing d with
  | nil =>
    have hnone : ¬ Overcloses d [] := by
      rintro ⟨p, hp, hlt⟩
      obtain rfl := List.prefix_nil.1 hp
      simp at hlt
    unfold splitParts
    by_cases hd : d = 0
    · subst hd
      simp [hnone]
    · simp [hd, hnone, Nat.pos_of_ne_zero hd, eq_comm]
  | cons c s ih =>
    by_cases hclose : c = ')' ∧ d = 0
    · obtain ⟨rfl, rfl⟩ := hclose
      simp [splitParts_close, overcloses_close, eq_comm]
    · obtain ⟨f, hf⟩ := exists_splitParts_cons hclose s
      have hcount := depthBehind_add_count hclose s
      have hlt : (c :: s).count ')' < d + (c :: s).count '(' ↔
          s.count ')' < depthBehind d c + s.count '(' := by omega
      rw [hf, map_eq_error_iff, ih, overcloses_cons hclose, hlt]

theorem not_balanced_iff : ¬ Balanced s ↔
    splitParts 0 s = .error .unexpectedClose ∨ splitParts 0 s = .error .unclosedOpen := by
  rw [splitParts_eq_error_iff, splitParts_eq_error_iff, balanced_iff]
  simp only [reduceCtorEq, and_true, and_false, or_false, false_or]
  tauto

end balance

section faults

/-- A fault in one requirement, and not in the parentheses of the whole. -/
def IsLocal : SelectorFault → Prop
  | .unexpectedClose | .unclosedOpen => False
  | _ => True

/-- No fault but a local one comes of a reading. -/
def FailsLocally {α : Type} (reading : Except SelectorFault α) : Prop :=
  ∀ fault, reading = .error fault → IsLocal fault

theorem FailsLocally.error {α : Type} (h : IsLocal fault) :
    FailsLocally (.error fault : Except SelectorFault α) := by
  rintro _ ⟨⟩
  exact h

theorem FailsLocally.map {α β : Type} {reading : Except SelectorFault α}
    (h : FailsLocally reading) (f : α → β) : FailsLocally (reading.map f) := by
  intro fault herror
  exact h fault (map_eq_error_iff.1 herror)

theorem failsLocally_validKey (key : List Char) : FailsLocally (validKey key) := by
  unfold validKey
  split
  · exact .error trivial
  · split
    · exact .error trivial
    · rintro _ ⟨⟩

theorem failsLocally_parseSet (text : String) (head rest : List Char) :
    FailsLocally (parseSet text head rest) := by
  unfold parseSet
  split
  · exact .error trivial
  · split
    · exact .error trivial
    · dsimp only
      split
      · exact .error trivial
      · split
        · exact .error trivial
        · split
          · exact (failsLocally_validKey _).map _
          · split
            · exact (failsLocally_validKey _).map _
            · exact .error trivial

theorem failsLocally_parseRequirement (raw : List Char) :
    FailsLocally (parseRequirement raw) := by
  unfold parseRequirement
  split
  · exact (failsLocally_validKey _).map _
  · split
    · exact (failsLocally_validKey _).map _
    · split
      · exact (failsLocally_validKey _).map _
      · split
        · exact failsLocally_parseSet _ _ _
        · split
          · exact .error trivial
          · exact (failsLocally_validKey _).map _

/-- The parentheses of the whole are at fault only where the text cannot be split. -/
theorem parseRequirements_eq_error_iff (h : ¬ IsLocal fault) :
    parseRequirements s = .error fault ↔ splitParts 0 s = .error fault := by
  unfold parseRequirements
  rw [bind_eq_error_iff]
  refine or_iff_left ?_
  rintro ⟨parts, -, herror⟩
  obtain ⟨raw, -, hraw⟩ := exists_of_mapM_eq_error herror
  exact h (failsLocally_parseRequirement raw fault hraw)

theorem parse_eq_error_iff {t : String} :
    parse t = .error ⟨t, fault⟩ ↔ parseRequirements t.toList = .error fault := by
  unfold parse
  cases parseRequirements t.toList <;> simp

end faults

section requirements

theorem SetForm.validKey (h : SetForm raw head key operator inside behind) : ValidKey key := by
  obtain ⟨_, _, _, -, -, -, -, hkey, -⟩ := h.exists_words
  exact hkey

theorem setMembers_ne_nil (h : SetForm raw head key operator inside behind) :
    setMembers inside ≠ [] := by
  rw [setMembers_eq]
  simpa using h.nonempty

theorem of_mem_setMembers {m : String} (h : m ∈ setMembers inside) : m ≠ "" ∧ Bare m.toList := by
  have hmem : m.toList ∈ members inside := by
    rw [← toList_setMembers]
    exact List.mem_map_of_mem h
  obtain ⟨hne, hbare, -, -⟩ := of_mem_members hmem
  refine ⟨?_, hbare⟩
  rintro rfl
  exact hne rfl

theorem Reads.isWellFormed (h : Reads raw r) : r.IsWellFormed := by
  cases h with
  | absent _ hvalid => simpa [Requirement.IsWellFormed] using hvalid
  | notEquals _ _ _ hvalid => simpa [Requirement.IsWellFormed] using ⟨hvalid, bare_trim _⟩
  | doubleEquals _ _ _ _ hvalid => simpa [Requirement.IsWellFormed] using ⟨hvalid, bare_trim _⟩
  | equals _ _ _ _ _ hvalid => simpa [Requirement.IsWellFormed] using ⟨hvalid, bare_trim _⟩
  | oneOf form =>
    refine ⟨?_, setMembers_ne_nil form, fun m hm => of_mem_setMembers hm⟩
    rw [String.toList_ofList]
    exact form.validKey
  | noneOf form =>
    refine ⟨?_, setMembers_ne_nil form, fun m hm => of_mem_setMembers hm⟩
    rw [String.toList_ofList]
    exact form.validKey
  | present _ _ _ hvalid => simpa [Requirement.IsWellFormed] using hvalid

theorem isWellFormed_of_parse {t : String} {f : Selector} (h : parse t = .ok f)
    (hr : r ∈ f.requirements) : r.IsWellFormed := by
  obtain ⟨parts, -, hreads⟩ := parseRequirements_eq_ok_iff.1 (parse_eq_ok_iff.1 h)
  obtain ⟨raw, -, hraw⟩ := exists_of_mem_right hreads hr
  exact hraw.isWellFormed

end requirements

/-- A text is refused for its parentheses exactly if they are not balanced; and a text that is
accepted has nothing but well formed requirements. -/
theorem accepted_is_well_formed (t : String) :
    (¬ Balanced t.toList ↔
      parse t = .error ⟨t, .unexpectedClose⟩ ∨ parse t = .error ⟨t, .unclosedOpen⟩) ∧
    ∀ f, parse t = .ok f → ∀ r ∈ f.requirements, r.IsWellFormed := by
  constructor
  · have hclose : ¬ IsLocal .unexpectedClose := not_false
    have hopen : ¬ IsLocal .unclosedOpen := not_false
    rw [not_balanced_iff, parse_eq_error_iff, parse_eq_error_iff,
      parseRequirements_eq_error_iff hclose, parseRequirements_eq_error_iff hopen]
  · intro f h r hr
    exact isWellFormed_of_parse h hr

theorem padded_set_is_well_formed :
    parse "env in ( prod ,, (eu) ), tier != " =
        .ok ⟨[.oneOf "env" ["prod", "(eu)"], .notEquals "tier" ""]⟩ ∧
      ∀ r ∈ [Requirement.oneOf "env" ["prod", "(eu)"], .notEquals "tier" ""], r.IsWellFormed := by
  have hread : parse "env in ( prod ,, (eu) ), tier != " =
      .ok ⟨[.oneOf "env" ["prod", "(eu)"], .notEquals "tier" ""]⟩ := by decide +kernel
  exact ⟨hread, (accepted_is_well_formed _).2 _ hread⟩

end Selector

end ResourceSync
