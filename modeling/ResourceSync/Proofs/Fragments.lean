import ResourceSync.Proofs.AlertNames

/-! What becomes of a text in the name of an alert: its letters and digits in words with single
hyphens between them, which another reading leaves as they are. -/
namespace ResourceSync

variable {c : Char} {l out : List Char} {before : Option Char} {rule : String}

/-- A run of small letters and digits. -/
def IsRun (w : List Char) : Prop := w ≠ [] ∧ ∀ c ∈ w, isWordChar c = true

/-- Runs with one hyphen between each and the next, or nothing at all. -/
structure IsFragment (l : List Char) : Prop where
  runs : ∃ words : List (List Char), (∀ w ∈ words, IsRun w) ∧ l = ['-'].intercalate words
  head : l.head? ≠ some '-'
  last : l.getLast? ≠ some '-'
  single : ¬ ['-', '-'] <:+: l

namespace IsKebab

theorem exists_runs (h : IsKebab l) :
    ∃ w ws, (∀ v ∈ w :: ws, IsRun v) ∧ l = ['-'].intercalate (w :: ws) := by
  induction h with
  | @single c hc =>
    refine ⟨[c], [], ?_, by simp⟩
    simpa [IsRun] using hc
  | @word c l hc _ ih =>
    obtain ⟨w, ws, hruns, rfl⟩ := ih
    obtain ⟨hw, hws⟩ := List.forall_mem_cons.1 hruns
    refine ⟨c :: w, ws, List.forall_mem_cons.2 ⟨⟨by simp, ?_⟩, hws⟩, ?_⟩
    · exact List.forall_mem_cons.2 ⟨hc, hw.2⟩
    · cases ws <;> simp [List.intercalate_cons_cons]
  | @hyphen c l hc _ ih =>
    obtain ⟨w, ws, hruns, rfl⟩ := ih
    refine ⟨[c], w :: ws, List.forall_mem_cons.2 ⟨?_, hruns⟩, ?_⟩
    · simpa [IsRun] using hc
    · simp [List.intercalate_cons_cons]

theorem head?_ne (h : IsKebab l) : l.head? ≠ some '-' := by
  obtain ⟨c, r, rfl, hc⟩ := h.exists_head
  simpa using ne_hyphen hc

theorem not_hyphens_infix (h : IsKebab l) : ¬ ['-', '-'] <:+: l := by
  induction h with
  | single _ =>
    intro hin
    simpa using hin.length_le
  | word hc _ ih =>
    rw [List.infix_cons_iff, List.cons_prefix_cons]
    rintro (⟨rfl, -⟩ | hin)
    · exact ne_hyphen hc rfl
    · exact ih hin
  | hyphen hc hl ih =>
    obtain ⟨d, r, rfl, hd⟩ := hl.exists_head
    rw [List.infix_cons_iff, List.infix_cons_iff, List.cons_prefix_cons]
    rintro (⟨rfl, -⟩ | hstart | hin)
    · exact ne_hyphen hc rfl
    · simp only [List.cons_prefix_cons] at hstart
      exact ne_hyphen hd hstart.2.1.symm
    · exact ih hin

theorem isFragment (h : IsKebab l) : IsFragment l where
  runs := by
    obtain ⟨w, ws, hruns, hl⟩ := h.exists_runs
    exact ⟨w :: ws, hruns, hl⟩
  head := h.head?_ne
  last := by
    rw [← List.head?_reverse]
    exact h.reverse.head?_ne
  single := h.not_hyphens_infix

end IsKebab

theorem isFragment_kebab (s : List Char) : IsFragment (kebab s) := by
  rcases isKebab_kebab s with hnil | h
  · rw [hnil]
    exact ⟨⟨[], by simp, by simp⟩, by simp, by simp, by simp⟩
  · exact h.isFragment

/-- What is made of a text is made of itself. -/
theorem kebab_kebab (s : List Char) : kebab (kebab s) = kebab s := by
  rcases isKebab_kebab s with hnil | h
  · rw [hnil]
    rfl
  · exact kebab_of_isKebab h

section letters

theorem filter_hyphenate (out : List Char) :
    (hyphenate out).filter (· ≠ '-') = out.filter (· ≠ '-') := by
  unfold hyphenate
  split
  · rfl
  · simp

/-- A step writes the character in lower case if it is a letter or a digit, and beside it nothing
but hyphens. -/
theorem filter_kebabStep (before : Option Char) (out : List Char) (c : Char) :
    (kebabStep before out c).filter (· ≠ '-') =
      (([c].filter isAlphanumeric).map Char.toLower).reverse ++ out.filter (· ≠ '-') := by
  by_cases hc : isAlphanumeric c = true
  · have hne : c.toLower ≠ '-' := IsKebab.ne_hyphen (isWordChar_toLower hc)
    have hrest : (if startsWord before c then hyphenate out else out).filter (· ≠ '-') =
        out.filter (· ≠ '-') := by
      split
      · exact filter_hyphenate out
      · rfl
    rw [kebabStep, if_pos hc, List.filter_cons_of_pos (by simpa using hne), hrest,
      List.filter_cons_of_pos hc]
    rfl
  · rw [kebabStep, if_neg hc, filter_hyphenate, List.filter_cons_of_neg hc]
    rfl

theorem filter_kebabFrom (before : Option Char) (out s : List Char) :
    (kebabFrom before out s).filter (· ≠ '-') =
      ((s.filter isAlphanumeric).map Char.toLower).reverse ++ out.filter (· ≠ '-') := by
  induction s generalizing before out with
  | nil => rfl
  | cons c s ih =>
    rw [kebabFrom, ih, filter_kebabStep, ← List.append_assoc, ← List.reverse_append,
      ← List.map_append, ← List.filter_append, List.singleton_append]

theorem filter_dropWhile_hyphens (l : List Char) :
    (l.dropWhile (· == '-')).filter (· ≠ '-') = l.filter (· ≠ '-') := by
  have hfront : (l.takeWhile (· == '-')).filter (· ≠ '-') = [] := by
    rw [List.filter_eq_nil_iff]
    intro c hc
    simpa using List.mem_takeWhile_imp hc
  conv_rhs => rw [← List.takeWhile_append_dropWhile (p := (· == '-')) (l := l)]
  rw [List.filter_append, hfront, List.nil_append]

/-- Letters and digits are kept, in their order, and nothing else. -/
theorem filter_kebab (s : List Char) :
    (kebab s).filter (· ≠ '-') = (s.filter isAlphanumeric).map Char.toLower := by
  rw [kebab, List.filter_reverse, filter_dropWhile_hyphens, filter_kebabFrom, List.filter_nil,
    List.append_nil, List.reverse_reverse]

end letters

section names

/-- A label of a domain name. -/
structure IsLabel (l : List Char) : Prop where
  chars : ∀ c ∈ l, isWordChar c = true ∨ c = '-'
  head : ∃ c ∈ l.head?, isWordChar c = true
  last : ∃ c ∈ l.getLast?, isWordChar c = true

/-- A subdomain, as objects are named: labels with dots between them. -/
structure IsSubdomain (l : List Char) : Prop where
  labels : ∀ label ∈ l.splitOn '.', IsLabel label
  length : l.length ≤ 253

/-- The characters of a subdomain, with a letter or a digit at both ends. -/
structure IsNamelike (l : List Char) : Prop where
  chars : ∀ c ∈ l, isWordChar c = true ∨ c = '-' ∨ c = '.'
  head : ∃ c ∈ l.head?, isWordChar c = true
  last : ∃ c ∈ l.getLast?, isWordChar c = true

theorem isLabel_iff : IsLabel l ↔ (l.all fun c => isWordChar c || c == '-') = true ∧
    l.head?.any isWordChar = true ∧ l.getLast?.any isWordChar = true := by
  simp only [List.all_eq_true, Bool.or_eq_true, beq_iff_eq, Option.any_eq_true]
  exact ⟨fun h => ⟨h.chars, h.head, h.last⟩, fun h => ⟨h.1, h.2.1, h.2.2⟩⟩

instance (l : List Char) : Decidable (IsLabel l) := decidable_of_iff' _ isLabel_iff

theorem isSubdomain_iff :
    IsSubdomain l ↔ (∀ label ∈ l.splitOn '.', IsLabel label) ∧ l.length ≤ 253 :=
  ⟨fun h => ⟨h.labels, h.length⟩, fun h => ⟨h.1, h.2⟩⟩

instance (l : List Char) : Decidable (IsSubdomain l) := decidable_of_iff' _ isSubdomain_iff

theorem IsSubdomain.chars (h : IsSubdomain l) :
    ∀ c ∈ l, isWordChar c = true ∨ c = '-' ∨ c = '.' := by
  intro c hc
  have hl : ['.'].intercalate (l.splitOn '.') = l := List.intercalate_splitOn '.'
  rw [← hl] at hc
  rcases Text.mem_intercalate hc with rfl | ⟨label, hlabel, hc⟩
  · exact .inr (.inr rfl)
  · exact ((h.labels label hlabel).chars c hc).imp_right .inl

theorem IsSubdomain.head (h : IsSubdomain l) : ∃ c ∈ l.head?, isWordChar c = true := by
  obtain ⟨label, rest, hparts⟩ := List.exists_cons_of_ne_nil (List.splitOn_ne_nil '.' l)
  obtain ⟨c, hc, hword⟩ := (h.labels label (by simp [hparts])).head
  refine ⟨c, ?_, hword⟩
  have hl : l = ['.'].intercalate (label :: rest) := by
    rw [← hparts, List.intercalate_splitOn]
  obtain ⟨t, rfl⟩ : ∃ t, label = c :: t := by
    cases label with
    | nil => cases hc
    | cons d t =>
      obtain rfl := Option.some.inj hc
      exact ⟨t, rfl⟩
  rw [hl]
  cases rest <;> simp [List.intercalate_cons_cons]

theorem IsFragment.chars (h : IsFragment l) : ∀ c ∈ l, isWordChar c = true ∨ c = '-' := by
  obtain ⟨words, hruns, rfl⟩ := h.runs
  intro c hc
  rcases Text.mem_intercalate hc with rfl | ⟨w, hw, hc⟩
  · exact .inr rfl
  · exact .inl ((hruns w hw).2 c hc)

theorem isWordChar_of_mem_toDigits {n : Nat} (h : c ∈ Nat.toDigits 10 n) :
    isWordChar c = true := by
  have hdigit := Nat.isDigit_of_mem_toDigits (by decide) (by decide) h
  rw [isWordChar_iff]
  simp only [Char.isDigit, Bool.and_eq_true, decide_eq_true_eq, ge_iff_le,
    UInt32.le_iff_toNat_le] at hdigit
  exact .inr hdigit

/-- The name of an alert begins as that of its rule and ends in its position. -/
theorem isNamelike_alertName (h : IsSubdomain rule.toList) (alert : String) (index : Nat) :
    IsNamelike (alertName rule alert index).toList := by
  rw [toList_alertName]
  refine ⟨?_, ?_, ?_⟩
  · intro c hc
    simp only [List.mem_append, List.mem_cons] at hc
    rcases hc with (hc | rfl | hc) | rfl | hc
    · exact h.chars c hc
    · exact .inr (.inl rfl)
    · exact ((isFragment_kebab alert.toList).chars c hc).imp_right .inl
    · exact .inr (.inl rfl)
    · exact .inl (isWordChar_of_mem_toDigits hc)
  · obtain ⟨c, hc, hword⟩ := h.head
    refine ⟨c, ?_, hword⟩
    rw [List.append_assoc, List.head?_append, Option.mem_def.1 hc, Option.some_or]
    rfl
  · have hne : Nat.toDigits 10 index ≠ [] := Nat.toDigits_ne_nil
    have hlast := List.getLast?_eq_some_getLast hne
    refine ⟨_, ?_, isWordChar_of_mem_toDigits (List.getLast_mem hne)⟩
    rw [List.getLast?_append_of_ne_nil _ (by simp), List.getLast?_cons, hlast]
    rfl

end names

/-- From every text the name of an alert takes the letters and digits in small, in words with single
hyphens between them, and would take the same from those words. Behind the name of a rule, which is a
subdomain, that makes a text of the same characters, with a letter or a digit at both ends. -/
theorem kebab_is_stable_fragment :
    (∀ s : List Char, IsFragment (kebab s) ∧
      (kebab s).filter (· ≠ '-') = (s.filter isAlphanumeric).map Char.toLower ∧
      kebab (kebab s) = kebab s) ∧
    ∀ (rule alert : String) (index : Nat), IsSubdomain rule.toList →
      IsNamelike (alertName rule alert index).toList := by
  constructor
  · intro s
    exact ⟨isFragment_kebab s, filter_kebab s, kebab_kebab s⟩
  · intro rule alert index h
    exact isNamelike_alertName h alert index

theorem alert_of_dotted_rule_is_namelike :
    IsSubdomain "shop.api-v2".toList ∧
      alertName "shop.api-v2" "High5xxRate (EU)" 0 = "shop.api-v2-high5xx-rate-eu-0" ∧
      IsNamelike (alertName "shop.api-v2" "High5xxRate (EU)" 0).toList := by
  have hrule : IsSubdomain "shop.api-v2".toList := by decide +kernel
  exact ⟨hrule, by decide +kernel, kebab_is_stable_fragment.2 _ _ _ hrule⟩

end ResourceSync
