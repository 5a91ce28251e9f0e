import Mathlib.Data.List.Basic
import ResourceSync.Prometheus.Naming
import ResourceSync.Proofs.Cutting

/-! Names of generated alerts: what they tell of the rule, the alert and the position that they are
put together from. -/
namespace ResourceSync

variable {c : Char} {l t k : List Char} {rule rule' alert alert' : String} {index index' : Nat}

/-- Whether a character belongs to a word of a name. -/
def isWordChar (c : Char) : Bool := ('a' ≤ c && c ≤ 'z') || ('0' ≤ c && c ≤ '9')

/-- Words of letters and digits with single hyphens between them. -/
inductive IsKebab : List Char → Prop where
  | single {c : Char} (h : isWordChar c = true) : IsKebab [c]
  | word {c : Char} {l : List Char} (h : isWordChar c = true) (hl : IsKebab l) : IsKebab (c :: l)
  | hyphen {c : Char} {l : List Char} (h : isWordChar c = true) (hl : IsKebab l) :
    IsKebab (c :: '-' :: l)

namespace IsKebab

theorem ne_hyphen (h : isWordChar c = true) : c ≠ '-' := by
  rintro rfl
  exact absurd h (by decide)

theorem exists_head (h : IsKebab l) : ∃ c r, l = c :: r ∧ isWordChar c = true := by
  cases h with
  | single h | word h _ | hyphen h _ => exact ⟨_, _, rfl, h⟩

theorem append_hyphen (ht : IsKebab t) (hk : IsKebab k) : IsKebab (t ++ '-' :: k) := by
  induction ht with
  | single h => exact .hyphen h hk
  | word h _ ih => exact .word h ih
  | hyphen h _ ih => exact .hyphen h ih

theorem concat (hl : IsKebab l) (hc : isWordChar c = true) : IsKebab (l ++ [c]) := by
  induction hl with
  | single h => exact .word h (.single hc)
  | word h _ ih => exact .word h ih
  | hyphen h _ ih => exact .hyphen h ih

theorem reverse (h : IsKebab l) : IsKebab l.reverse := by
  induction h with
  | single h => exact .single h
  | word h _ ih =>
    rw [List.reverse_cons]
    exact ih.concat h
  | hyphen h _ ih =>
    rw [List.reverse_cons, List.reverse_cons, List.append_assoc]
    exact ih.append_hyphen (.single h)

/-- At a hyphen such a text comes apart into two of its kind. -/
theorem of_append_hyphen (h : IsKebab (t ++ '-' :: k)) : IsKebab t ∧ IsKebab k := by
  generalize hl : t ++ '-' :: k = l at h
  induction h generalizing t with
  | @single c h =>
    rcases List.append_eq_singleton_iff.1 hl with ⟨-, hk⟩ | ⟨-, hk⟩
    · cases hk
      exact absurd h (by decide)
    · cases hk
  | @word c rest h hrest ih =>
    cases t with
    | nil =>
      cases hl
      exact absurd h (by decide)
    | cons d t =>
      simp only [List.cons_append, List.cons.injEq] at hl
      obtain ⟨rfl, hl⟩ := hl
      obtain ⟨ht, hk⟩ := ih hl
      exact ⟨.word h ht, hk⟩
  | @hyphen c rest h hrest ih =>
    match t, hl with
    | [], hl =>
      cases hl
      exact absurd h (by decide)
    | [d], hl =>
      cases hl
      exact ⟨.single h, hrest⟩
    | d :: e :: t, hl =>
      simp only [List.cons_append, List.cons.injEq] at hl
      obtain ⟨rfl, rfl, hl⟩ := hl
      obtain ⟨ht, hk⟩ := ih hl
      exact ⟨.hyphen h ht, hk⟩

end IsKebab

section characters

theorem isWordChar_iff : isWordChar c = true ↔
    97 ≤ c.toNat ∧ c.toNat ≤ 122 ∨ 48 ≤ c.toNat ∧ c.toNat ≤ 57 := by
  simp only [isWordChar, Char.le_def, UInt32.le_iff_toNat_le, Bool.or_eq_true, Bool.and_eq_true,
    decide_eq_true_eq]
  rfl

theorem isUpper_iff : isUpper c = true ↔ 65 ≤ c.toNat ∧ c.toNat ≤ 90 := by
  simp only [isUpper, Char.le_def, UInt32.le_iff_toNat_le, Bool.and_eq_true, decide_eq_true_eq]
  rfl

theorem isAlphanumeric_iff : isAlphanumeric c = true ↔ isWordChar c = true ∨ isUpper c = true := by
  simp only [isAlphanumeric, isWordChar, isUpper, Bool.or_eq_true]
  tauto

theorem isUpper_of_isWordChar (h : isWordChar c = true) : isUpper c = false := by
  rw [isWordChar_iff] at h
  rw [← Bool.not_eq_true, isUpper_iff]
  omega

theorem toLower_of_not_isUpper (h : isUpper c = false) : c.toLower = c := by
  refine dif_neg ?_
  rintro ⟨hlow, hhigh⟩
  rw [← Bool.not_eq_true, isUpper_iff] at h
  exact h ⟨UInt32.le_iff_toNat_le.1 hlow, UInt32.le_iff_toNat_le.1 hhigh⟩

theorem isWordChar_toLower (h : isAlphanumeric c = true) : isWordChar c.toLower = true := by
  rcases isAlphanumeric_iff.1 h with h | h
  · rw [toLower_of_not_isUpper (isUpper_of_isWordChar h)]
    exact h
  · have hrange := isUpper_iff.1 h
    have hlower : c.toLower.toNat = (c.val.toNat + 32) % 4294967296 := congrArg Char.toNat
      (dif_pos ⟨UInt32.le_iff_toNat_le.2 hrange.1, UInt32.le_iff_toNat_le.2 hrange.2⟩)
    have hval : c.toLower.toNat = c.toNat + 32 := by
      change c.toLower.toNat = c.val.toNat + 32
      rw [hlower]
      have hsmall : c.val.toNat ≤ 90 := hrange.2
      omega
    rw [isWordChar_iff, hval]
    omega

end characters

section kebab

/-- What is written so far, last character first, is nothing, such a text, or one with a hyphen
behind it. -/
def Written (out : List Char) : Prop :=
  out = [] ∨ IsKebab out ∨ ∃ r, out = '-' :: r ∧ IsKebab r

theorem Written.word {out : List Char} (hc : isWordChar c = true) (h : Written out) :
    IsKebab (c :: out) := by
  rcases h with rfl | h | ⟨r, rfl, h⟩
  · exact .single hc
  · exact .word hc h
  · exact .hyphen hc h

theorem Written.hyphenate {out : List Char} (h : Written out) : Written (hyphenate out) := by
  unfold ResourceSync.hyphenate
  split
  · exact h
  · next hstop =>
    rcases h with rfl | h | ⟨r, rfl, -⟩
    · simp at hstop
    · exact .inr (.inr ⟨out, rfl, h⟩)
    · simp at hstop

theorem Written.kebabStep {before : Option Char} {out : List Char} (h : Written out) (c : Char) :
    Written (kebabStep before out c) := by
  unfold ResourceSync.kebabStep
  split
  · next hc =>
    refine .inr (.inl (Written.word (isWordChar_toLower hc) ?_))
    split
    · exact h.hyphenate
    · exact h
  · exact h.hyphenate

theorem Written.kebabFrom {before : Option Char} {out : List Char} (h : Written out)
    (s : List Char) : Written (kebabFrom before out s) := by
  induction s generalizing before out with
  | nil => exact h
  | cons c s ih => exact ih (h.kebabStep c)

/-- A text without letters and digits leaves nothing; from any other such a text is made. -/
theorem isKebab_kebab (s : List Char) : kebab s = [] ∨ IsKebab (kebab s) := by
  have hwritten : Written (kebabFrom none [] s) := Written.kebabFrom (.inl rfl) s
  have hclean {r : List Char} (hr : IsKebab r) :
      (r.dropWhile (· == '-')).reverse = r.reverse := by
    obtain ⟨c, r, rfl, hc⟩ := hr.exists_head
    rw [List.dropWhile_cons_of_neg (by simpa using IsKebab.ne_hyphen hc)]
  unfold kebab
  rcases hwritten with h | h | ⟨r, h, hr⟩
  · exact .inl (by rw [h]; rfl)
  · right
    rw [hclean h]
    exact h.reverse
  · right
    rw [h, List.dropWhile_cons_of_pos (by rfl), hclean hr]
    exact hr.reverse

theorem kebabStep_word {before : Option Char} (h : isWordChar c = true) (out : List Char) :
    kebabStep before out c = c :: out := by
  have hupper := isUpper_of_isWordChar h
  rw [kebabStep, if_pos (isAlphanumeric_iff.2 (.inl h)), if_neg (by simp [startsWord, hupper]),
    toLower_of_not_isUpper hupper]

/-- Such a text is written as it is. -/
theorem kebabFrom_of_isKebab {before : Option Char} (h : IsKebab l) (out : List Char) :
    kebabFrom before out l = l.reverse ++ out := by
  induction h generalizing before out with
  | single h => rw [kebabFrom, kebabStep_word h, kebabFrom]; rfl
  | word h _ ih =>
    rw [kebabFrom, kebabStep_word h, ih]
    simp
  | @hyphen c l h _ ih =>
    have hhyphen : kebabStep (some c) (c :: out) '-' = '-' :: c :: out := by
      rw [kebabStep, if_neg (by decide), hyphenate, if_neg (by simpa using IsKebab.ne_hyphen h)]
    rw [kebabFrom, kebabStep_word h, kebabFrom, hhyphen, ih]
    simp

theorem kebab_of_isKebab (h : IsKebab l) : kebab l = l := by
  obtain ⟨c, r, hr, hc⟩ := h.reverse.exists_head
  rw [kebab, kebabFrom_of_isKebab h, List.append_nil, hr,
    List.dropWhile_cons_of_neg (by simpa using IsKebab.ne_hyphen hc), ← hr, List.reverse_reverse]

end kebab

section names

theorem toList_alertName : (alertName rule alert index).toList =
    rule.toList ++ '-' :: kebab alert.toList ++ '-' :: Nat.toDigits 10 index := by
  have htext : alertName rule alert index =
      rule ++ "-" ++ String.ofList (kebab alert.toList) ++ "-" ++ index.repr := rfl
  simp [htext]

theorem hyphen_notMem_toDigits (n : Nat) : '-' ∉ Nat.toDigits 10 n := by
  intro h
  have hdigit := Nat.isDigit_of_mem_toDigits (by decide) (by decide) h
  exact absurd hdigit (by decide)

theorem toDigits_inj {m n : Nat} (h : Nat.toDigits 10 m = Nat.toDigits 10 n) : m = n := by
  have hread := congrArg (Nat.ofDigitChars 10 · 0) h
  simpa [Nat.ofDigitChars_toDigits] using hread

/-- There is one last place to cut a text at. -/
theorem eq_of_last_cut {b b' a a' : List Char} (ha : c ∉ a) (ha' : c ∉ a')
    (h : b ++ c :: a = b' ++ c :: a') : b = b' ∧ a = a' := by
  have hcut : Text.cutLast? c (b ++ c :: a) = some (b, a) :=
    Text.cutLast?_eq_some_iff.2 ⟨rfl, ha⟩
  rw [Text.cutLast?_eq_some_iff.2 ⟨h, ha'⟩] at hcut
  obtain ⟨hb, ha⟩ := Prod.mk.inj (Option.some.inj hcut)
  exact ⟨hb.symm, ha.symm⟩

/-- A name comes apart at its last hyphen. -/
theorem alertName_eq_iff : alertName rule alert index = alertName rule' alert' index' ↔
    index = index' ∧
      rule.toList ++ '-' :: kebab alert.toList = rule'.toList ++ '-' :: kebab alert'.toList := by
  rw [← String.toList_inj, toList_alertName, toList_alertName]
  constructor
  · intro h
    obtain ⟨hfront, hdigits⟩ :=
      eq_of_last_cut (hyphen_notMem_toDigits index) (hyphen_notMem_toDigits index') h
    exact ⟨toDigits_inj hdigits, hfront⟩
  · rintro ⟨rfl, h⟩
    rw [h]

/-- The name of one rule goes on behind the name of another with a hyphen and words. -/
def Extends (longer rule : String) : Prop :=
  ∃ t, IsKebab t ∧ longer.toList = rule.toList ++ '-' :: t

/-- Where one of the rules' names goes on behind the other, the words behind it can come from the
rule's name as well as from the alert's. -/
theorem extends_of_append_eq {as : List Char} (hne : rule ≠ rule')
    (hname : rule'.toList = rule.toList ++ as)
    (hrest : '-' :: kebab alert.toList = as ++ '-' :: kebab alert'.toList) :
    Extends rule' rule := by
  cases as with
  | nil =>
    rw [List.append_nil] at hname
    exact absurd (String.toList_inj.1 hname).symm hne
  | cons d t =>
    simp only [List.cons_append, List.cons.injEq] at hrest
    obtain ⟨rfl, hkebab⟩ := hrest
    rcases isKebab_kebab alert.toList with hnil | hk
    · rw [hnil] at hkebab
      simp at hkebab
    · rw [hkebab] at hk
      exact ⟨t, hk.of_append_hyphen.1, hname⟩

/-- Only where the name of one rule goes on behind that of the other can names of their alerts be
equal. -/
theorem extends_of_alertName_eq (hne : rule ≠ rule')
    (h : alertName rule alert index = alertName rule' alert' index') :
    Extends rule rule' ∨ Extends rule' rule := by
  obtain ⟨-, h⟩ := alertName_eq_iff.1 h
  rcases List.append_eq_append_iff.1 h with ⟨as, hname, hrest⟩ | ⟨as, hname, hrest⟩
  · exact .inr (extends_of_append_eq hne hname hrest)
  · exact .inl (extends_of_append_eq hne.symm hname hrest)

theorem alertName_eq_of_extends (h : Extends rule' rule) (index : Nat) :
    ∃ alert alert', alertName rule alert index = alertName rule' alert' index := by
  obtain ⟨t, ht, hname⟩ := h
  have ha : IsKebab ['a'] := .single (by decide)
  refine ⟨String.ofList (t ++ ['-', 'a']), "a", alertName_eq_iff.2 ⟨rfl, ?_⟩⟩
  have hsingle : kebab "a".toList = ['a'] := by decide
  rw [String.toList_ofList, kebab_of_isKebab (ht.append_hyphen ha), hname, hsingle]
  simp

/-- And there they can be, at any position. -/
theorem exists_alertName_eq (h : Extends rule rule' ∨ Extends rule' rule) (index : Nat) :
    ∃ alert alert', alertName rule alert index = alertName rule' alert' index := by
  rcases h with h | h
  · obtain ⟨alert', alert, h⟩ := alertName_eq_of_extends h index
    exact ⟨alert, alert', h.symm⟩
  · exact alertName_eq_of_extends h index

end names

end ResourceSync
