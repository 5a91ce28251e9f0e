import Mathlib.Data.List.DropRight
import ResourceSync.Text.Blank
import ResourceSync.Text.Cut

/-! What the cuts of a text at separators and blanks find, said by where the text comes apart. -/
namespace ResourceSync.Text

variable {s s' l r a b w sep : List Char} {c x y : Char}

theorem splitOn_eq (sep : Char) (s : List Char) : splitOn sep s = s.splitOn sep := by
  induction s with
  | nil => rfl
  | cons c s ih =>
    rw [splitOn, ih, List.splitOn_eq_splitOnP, List.splitOn_eq_splitOnP,
      List.splitOnP_cons_eq_if_modifyHead]
    by_cases hc : c = sep
    · simp [hc]
    · obtain ⟨part, parts, hparts⟩ :=
        List.exists_cons_of_ne_nil (@List.splitOnP_ne_nil _ (· == sep) s)
      simp [hc, hparts]

/-- A part has no separator in it, and nothing that the text does not have. -/
theorem of_mem_splitOn (h : w ∈ s.splitOn c) : c ∉ w ∧ w ⊆ s := by
  rw [← splitOn_eq] at h
  induction s generalizing w with
  | nil =>
    obtain rfl := List.mem_singleton.1 h
    simp
  | cons d s ih =>
    rw [splitOn] at h
    split at h
    · rcases List.mem_cons.1 h with rfl | h
      · simp
      · exact ⟨(ih h).1, fun e he => List.mem_cons_of_mem d ((ih h).2 he)⟩
    · next hd =>
      cases hparts : splitOn c s with
      | nil =>
        rw [hparts] at h
        obtain rfl := List.mem_singleton.1 h
        simp [Ne.symm hd]
      | cons part parts =>
        rw [hparts] at h ih
        rcases List.mem_cons.1 h with rfl | h
        · obtain ⟨hno, hsub⟩ := ih List.mem_cons_self
          exact ⟨by simp [Ne.symm hd, hno], List.cons_subset_cons d hsub⟩
        · obtain ⟨hno, hsub⟩ := ih (List.mem_cons_of_mem part h)
          exact ⟨hno, fun e he => List.mem_cons_of_mem d (hsub he)⟩

/-- A text put together from parts has nothing but them and the separator. -/
theorem mem_intercalate {parts : List (List Char)} (h : c ∈ [y].intercalate parts) :
    c = y ∨ ∃ p ∈ parts, c ∈ p := by
  induction parts with
  | nil => cases h
  | cons p parts ih =>
    cases parts with
    | nil => exact Or.inr ⟨p, List.mem_cons_self, by simpa using h⟩
    | cons q parts =>
      rw [List.intercalate_cons_cons, List.append_assoc, List.mem_append, List.singleton_append,
        List.mem_cons] at h
      rcases h with h | h | h
      · exact Or.inr ⟨p, List.mem_cons_self, h⟩
      · exact Or.inl h
      · exact (ih h).imp_right fun ⟨q', hq', hc⟩ => ⟨q', List.mem_cons_of_mem p hq', hc⟩

theorem after?_eq_some_iff : after? l s = some r ↔ s = l ++ r := by
  induction l generalizing s with
  | nil => simp [after?, eq_comm]
  | cons p l ih =>
    cases s with
    | nil => simp [after?]
    | cons c s =>
      rw [after?]
      split
      · next heq => simp [ih, heq]
      · next hne => simp [Ne.symm hne]

theorem after?_eq_none_iff : after? l s = none ↔ ¬ l <+: s := by
  constructor
  · rintro hnone ⟨r, hr⟩
    rw [after?_eq_some_iff.2 hr.symm] at hnone
    cases hnone
  · intro hstart
    by_contra hsome
    obtain ⟨r, hr⟩ := Option.ne_none_iff_exists'.1 hsome
    exact hstart ⟨r, (after?_eq_some_iff.1 hr).symm⟩

theorem cut?_eq_none_iff (h : sep ≠ []) : cut? sep s = none ↔ ¬ sep <:+: s := by
  induction s with
  | nil => simp [cut?, h]
  | cons c s ih =>
    rw [cut?, List.infix_cons_iff, not_or, ← ih]
    cases hafter : after? sep (c :: s) with
    | some rest =>
      have hstart : sep <+: c :: s := ⟨rest, (after?_eq_some_iff.1 hafter).symm⟩
      simp [hstart]
    | none => simp [after?_eq_none_iff.1 hafter]

/-- The first occurrence of the separator is the one that does not start any earlier. -/
theorem cut?_eq_some_iff (h : sep ≠ []) :
    cut? sep s = some (b, a) ↔ s = b ++ sep ++ a ∧ ¬ sep <:+: b ++ sep.dropLast := by
  induction s generalizing b with
  | nil => simp [cut?, h]
  | cons c s ih =>
    have hshort : ¬ sep <:+: sep.dropLast := by
      intro hin
      have hlength := hin.length_le
      rw [List.length_dropLast] at hlength
      have hpos := List.length_pos_iff.2 h
      omega
    rw [cut?]
    cases hafter : after? sep (c :: s) with
    | some rest =>
      have hs := after?_eq_some_iff.1 hafter
      cases b with
      | nil => simp [hs, hshort]
      | cons c' b =>
        refine iff_of_false (by simp) ?_
        rintro ⟨heq, hfirst⟩
        -- the separator at the start would be an earlier occurrence
        have hbefore : sep <+: c :: s := ⟨rest, hs.symm⟩
        have hstart : sep <+: c' :: b ++ sep.dropLast := by
          refine List.prefix_of_prefix_length_le hbefore ?_ ?_
          · rw [heq]
            have hdrop : sep.dropLast <+: sep ++ a :=
              (List.dropLast_prefix sep).trans (List.prefix_append sep a)
            rw [List.append_assoc]
            exact List.prefix_append_right_inj _ |>.2 hdrop
          · simp only [List.length_append, List.length_cons, List.length_dropLast]
            omega
        exact hfirst hstart.isInfix
    | none =>
      have hno := after?_eq_none_iff.1 hafter
      cases b with
      | nil =>
        refine iff_of_false (by simp) ?_
        rintro ⟨heq, -⟩
        exact hno ⟨a, by simpa using heq.symm⟩
      | cons c' b =>
        have hcons : (cut? sep s).map (fun p => (c :: p.1, p.2)) = some (c' :: b, a) ↔
            c = c' ∧ cut? sep s = some (b, a) := by
          cases cut? sep s <;> simp [and_assoc, Prod.ext_iff]
        rw [hcons, ih]
        constructor
        · rintro ⟨rfl, hs, hfirst⟩
          refine ⟨by simp [hs], ?_⟩
          rw [List.cons_append, List.infix_cons_iff, not_or]
          refine ⟨fun hstart => hno ?_, hfirst⟩
          rw [hs, List.append_assoc]
          have hdrop : sep.dropLast <+: sep ++ a :=
            (List.dropLast_prefix sep).trans (List.prefix_append sep a)
          exact hstart.trans (List.prefix_append_right_inj (c :: b) |>.2 hdrop)
        · rintro ⟨heq, hfirst⟩
          simp only [List.cons_append, List.cons.injEq] at heq
          rw [List.cons_append, List.infix_cons_iff, not_or] at hfirst
          exact ⟨heq.1, by simpa using heq.2, hfirst.2⟩

theorem singleton_infix_iff : [c] <:+: s ↔ c ∈ s := by
  constructor
  · rintro ⟨l, r, rfl⟩
    simp
  · intro h
    obtain ⟨l, r, rfl⟩ := List.append_of_mem h
    exact ⟨l, r, by simp⟩

theorem cut?_singleton : cut? [c] s = some (b, a) ↔ s = b ++ c :: a ∧ c ∉ b := by
  rw [cut?_eq_some_iff (by simp)]
  simp [singleton_infix_iff]

theorem cutLast?_eq_some_iff : cutLast? c s = some (b, a) ↔ s = b ++ c :: a ∧ c ∉ a := by
  have hreverse : cutLast? c s = some (b, a) ↔
      cut? [c] s.reverse = some (a.reverse, b.reverse) := by
    unfold cutLast?
    constructor
    · intro h
      obtain ⟨⟨a', b'⟩, hcut, heq⟩ := Option.map_eq_some_iff.1 h
      obtain ⟨rfl, rfl⟩ := Prod.mk.inj heq
      simpa using hcut
    · intro h
      rw [h]
      simp
  rw [hreverse, cut?_singleton, List.mem_reverse]
  refine and_congr_left fun _ => ?_
  rw [List.reverse_eq_iff]
  simp

/-- Where two characters stand side by side in a text that is put together. -/
theorem pair_infix_append_iff : [x, y] <:+: l ++ r ↔
    [x, y] <:+: l ∨ [x, y] <:+: r ∨ l.getLast? = some x ∧ r.head? = some y := by
  induction l with
  | nil => simp
  | cons c l ih =>
    rw [List.cons_append, List.infix_cons_iff, ih, List.infix_cons_iff]
    cases l with
    | nil =>
      cases r with
      | nil => simp
      | cons d r =>
        simp only [List.nil_append, List.cons_prefix_cons, List.nil_prefix, and_true,
          List.head?_cons, List.getLast?_singleton, Option.some.injEq, List.infix_nil,
          List.getLast?_nil]
        grind
    | cons d l => simp [List.cons_prefix_cons, List.getLast?_cons_cons, or_assoc]

/-- Nothing but blanks. -/
def Blanks (s : List Char) : Prop := ∀ c ∈ s, isBlank c = true

/-- No blank at all. -/
def Unbroken (s : List Char) : Prop := ∀ c ∈ s, isBlank c = false

/-- No blank at either end. -/
structure Bare (s : List Char) : Prop where
  head : ∀ c ∈ s.head?, isBlank c = false
  last : ∀ c ∈ s.getLast?, isBlank c = false

theorem blanks_nil : Blanks [] := by simp [Blanks]

theorem blanks_singleton (h : isBlank c = true) : Blanks [c] := by simpa [Blanks] using h

theorem unbroken_of_any (h : s.any isBlank = false) : Unbroken s := by simpa [Unbroken] using h

theorem Unbroken.bare (h : Unbroken s) : Bare s :=
  ⟨fun c hc => h c (List.mem_of_mem_head? hc), fun c hc => h c (List.mem_of_mem_getLast? hc)⟩

theorem Blanks.append (hl : Blanks l) (hr : Blanks r) : Blanks (l ++ r) := fun c hc =>
  (List.mem_append.1 hc).elim (hl c) (hr c)

/-- Between two bare texts there may be anything. -/
theorem Bare.around (hl : Bare l) (hr : Bare r) (hne : l ≠ []) (hne' : r ≠ []) (s : List Char) :
    Bare (l ++ s ++ r) where
  head c hc := by
    rw [List.append_assoc, List.head?_append_of_ne_nil _ hne] at hc
    exact hl.head c hc
  last c hc := by
    rw [List.getLast?_append_of_ne_nil _ hne'] at hc
    exact hr.last c hc

theorem Bare.append (hl : Bare l) (hr : Bare r) : Bare (l ++ r) := by
  by_cases hne : l = []
  · rwa [hne, List.nil_append]
  · by_cases hne' : r = []
    · rwa [hne', List.append_nil]
    · simpa using hl.around hr hne hne' []

/-- A bare text begins with what stands behind its blanks. -/
theorem Bare.head?_eq (h : Bare (l ++ w ++ r)) (hl : Blanks l) (hw : w ≠ []) :
    w.head? = (l ++ w ++ r).head? := by
  cases l with
  | nil => rw [List.nil_append, List.head?_append_of_ne_nil _ hw]
  | cons c l =>
    have hc := h.head c (by simp)
    rw [hl c List.mem_cons_self] at hc
    cases hc

theorem dropWhile_blanks_append (hl : Blanks l) :
    (l ++ s).dropWhile isBlank = s.dropWhile isBlank := by
  rw [List.dropWhile_append_of_pos hl]

theorem dropEndWhile_eq (p : Char → Bool) (s : List Char) : dropEndWhile p s = s.rdropWhile p := rfl

theorem dropEndWhile_append_blanks (hr : Blanks r) :
    dropEndWhile isBlank (s ++ r) = dropEndWhile isBlank s := by
  unfold dropEndWhile
  rw [List.reverse_append, dropWhile_blanks_append]
  intro c hc
  exact hr c (List.mem_reverse.1 hc)

theorem last_dropEndWhile (s : List Char) :
    ∀ c ∈ (dropEndWhile isBlank s).getLast?, isBlank c = false := by
  intro c hc
  rw [dropEndWhile_eq] at hc
  have hne : s.rdropWhile isBlank ≠ [] := by
    intro hnil
    rw [hnil] at hc
    cases hc
  rw [List.getLast?_eq_some_getLast hne, Option.mem_some_iff] at hc
  rw [← hc]
  simpa using List.rdropWhile_last_not isBlank s hne

theorem exists_dropEndWhile (s : List Char) :
    ∃ r, Blanks r ∧ s = dropEndWhile isBlank s ++ r := by
  refine ⟨(s.reverse.takeWhile isBlank).reverse,
    fun c hc => List.mem_takeWhile_imp (List.mem_reverse.1 hc), ?_⟩
  rw [dropEndWhile, ← List.reverse_append, List.takeWhile_append_dropWhile, List.reverse_reverse]

theorem bare_trim (s : List Char) : Bare (trim s) where
  head c hc := by
    obtain ⟨r, -, hr⟩ := exists_dropEndWhile (s.dropWhile isBlank)
    have hhead : (s.dropWhile isBlank).head? = some c := by
      rw [hr, List.head?_append]
      change (trim s).head?.or _ = _
      rw [Option.mem_def.1 hc, Option.some_or]
    have hnot := List.head?_dropWhile_not isBlank s
    rw [hhead] at hnot
    exact hnot
  last := last_dropEndWhile _

/-- What is trimmed off are blanks. -/
theorem exists_trim (s : List Char) : ∃ l r, Blanks l ∧ Blanks r ∧ s = l ++ trim s ++ r := by
  obtain ⟨r, hr, heq⟩ := exists_dropEndWhile (s.dropWhile isBlank)
  refine ⟨s.takeWhile isBlank, r, fun c hc => List.mem_takeWhile_imp hc, hr, ?_⟩
  rw [List.append_assoc, trim, ← heq, List.takeWhile_append_dropWhile]

/-- A text is trimmed to its only part that is bare between blanks. -/
theorem trim_padded (hl : Blanks l) (hr : Blanks r) (hs : Bare s) : trim (l ++ s ++ r) = s := by
  rw [trim, List.append_assoc, dropWhile_blanks_append hl]
  cases s with
  | nil =>
    have hnil : r.dropWhile isBlank = [] := List.dropWhile_eq_nil_iff.2 hr
    rw [List.nil_append, hnil]
    rfl
  | cons c s =>
    have hc : isBlank c = false := hs.head c (by simp)
    rw [List.cons_append, List.dropWhile_cons_of_neg (by simp [hc]), ← List.cons_append,
      dropEndWhile_append_blanks hr, dropEndWhile_eq, List.rdropWhile_eq_self_iff]
    intro hne
    simpa using hs.last _ (List.getLast?_eq_some_getLast hne)

theorem Bare.trim_eq (hs : Bare s) : trim s = s := by
  simpa using trim_padded blanks_nil blanks_nil hs

theorem trim_trim (s : List Char) : trim (trim s) = trim s := (bare_trim s).trim_eq

theorem trim_eq_nil_iff : trim s = [] ↔ Blanks s := by
  constructor
  · intro hnil
    obtain ⟨l, r, hl, hr, heq⟩ := exists_trim s
    rw [heq, hnil, List.append_nil]
    exact hl.append hr
  · intro hs
    simpa using trim_padded (s := []) hs blanks_nil ⟨by simp, by simp⟩

theorem trim_isInfix (s : List Char) : trim s <:+: s := by
  obtain ⟨l, r, -, -, heq⟩ := exists_trim s
  exact ⟨l, r, heq.symm⟩

theorem trim_append_blanks (hr : Blanks r) : trim (s ++ r) = trim s := by
  obtain ⟨l, r', hl, hr', heq⟩ := exists_trim s
  have hs : s ++ r = l ++ trim s ++ (r' ++ r) := by rw [← List.append_assoc, ← heq]
  rw [hs, trim_padded hl (hr'.append hr) (bare_trim s)]

theorem trim_dropEndWhile (s : List Char) : trim (dropEndWhile isBlank s) = trim s := by
  obtain ⟨r, hr, heq⟩ := exists_dropEndWhile s
  conv_rhs => rw [heq, trim_append_blanks hr]

theorem trim_dropWhile (s : List Char) : trim (s.dropWhile isBlank) = trim s := by
  rw [trim, List.dropWhile_idempotent, ← trim]

theorem dropEndWhile_subset (s : List Char) : dropEndWhile isBlank s ⊆ s := by
  obtain ⟨r, -, heq⟩ := exists_dropEndWhile s
  conv_rhs => rw [heq]
  exact List.subset_append_left _ r

/-- Around a bare text, what is in front of it is trimmed at its start alone and what is behind it
at its end. -/
theorem trim_around (hs : Bare s) (hne : s ≠ []) (a b : List Char) :
    trim (a ++ s ++ b) = a.dropWhile isBlank ++ s ++ dropEndWhile isBlank b := by
  obtain ⟨r, hr, heq⟩ := exists_dropEndWhile b
  have hl : Blanks (a.takeWhile isBlank) := fun c hc => List.mem_takeWhile_imp hc
  have hbare : Bare (a.dropWhile isBlank ++ s ++ dropEndWhile isBlank b) := by
    refine ⟨fun c hc => ?_, fun c hc => ?_⟩
    · by_cases hnil : a.dropWhile isBlank = []
      · rw [hnil, List.nil_append, List.head?_append_of_ne_nil _ hne] at hc
        exact hs.head c hc
      · rw [List.append_assoc, List.head?_append_of_ne_nil _ hnil] at hc
        have hnot := List.head?_dropWhile_not isBlank a
        rw [Option.mem_def.1 hc] at hnot
        exact hnot
    · by_cases hnil : dropEndWhile isBlank b = []
      · rw [hnil, List.append_nil, List.getLast?_append_of_ne_nil _ hne] at hc
        exact hs.last c hc
      · rw [List.getLast?_append_of_ne_nil _ hnil] at hc
        exact last_dropEndWhile b c hc
  have hsplit : a ++ s ++ b =
      a.takeWhile isBlank ++ (a.dropWhile isBlank ++ s ++ dropEndWhile isBlank b) ++ r := by
    conv_lhs => rw [heq, ← List.takeWhile_append_dropWhile (p := isBlank) (l := a)]
    simp only [List.append_assoc]
  rw [hsplit, trim_padded hl hr hbare]

theorem words_go_append (hw : Unbroken w) :
    words.go l (w ++ s) = words.go (w.reverse ++ l) s := by
  induction w generalizing l with
  | nil => rfl
  | cons c w ih =>
    have hc : isBlank c = false := hw c List.mem_cons_self
    rw [List.cons_append, words.go, hc, if_neg (by simp),
      ih fun d hd => hw d (List.mem_cons_of_mem c hd)]
    simp

theorem words_blanks_append (hl : Blanks l) : words (l ++ s) = words s := by
  induction l with
  | nil => rfl
  | cons c l ih =>
    have hc : isBlank c = true := hl c List.mem_cons_self
    have hgo : words (c :: (l ++ s)) = words.close [] (words (l ++ s)) := by
      rw [words, words.go, if_pos hc]
      rfl
    rw [List.cons_append, hgo, ih fun d hd => hl d (List.mem_cons_of_mem c hd)]
    rfl

/-- A word reaches to the next blank, or to the end. -/
theorem words_append (hw : Unbroken w) (hne : w ≠ []) (hs : ∀ c ∈ s.head?, isBlank c = true) :
    words (w ++ s) = w :: words s := by
  have hclose (rest : List (List Char)) : words.close w.reverse rest = w :: rest := by
    simp [words.close, hne]
  rw [words, words_go_append hw, List.append_nil]
  cases s with
  | nil => exact hclose []
  | cons c s =>
    have hc : isBlank c = true := hs c (by simp)
    have hrest : words (c :: s) = words s := words_blanks_append (blanks_singleton hc)
    rw [words.go, if_pos hc, hclose, hrest]
    rfl

theorem words_of_blanks (hs : Blanks s) : words s = [] := by
  have hnil := words_blanks_append (s := []) hs
  rw [List.append_nil] at hnil
  exact hnil

/-- Two words with blanks between them. -/
theorem words_pair {w' gap : List Char} (hl : Blanks l) (hw : Unbroken w) (hne : w ≠ [])
    (hgap : Blanks gap) (apart : gap ≠ []) (hw' : Unbroken w') (hne' : w' ≠ []) (hr : Blanks r) :
    words (l ++ w ++ gap ++ w' ++ r) = [w, w'] := by
  have hspace : ∀ c ∈ (gap ++ (w' ++ r)).head?, isBlank c = true := by
    intro c hc
    rw [List.head?_append_of_ne_nil _ apart] at hc
    exact hgap c (List.mem_of_mem_head? hc)
  have hend : ∀ c ∈ r.head?, isBlank c = true := fun c hc => hr c (List.mem_of_mem_head? hc)
  simp only [List.append_assoc]
  rw [words_blanks_append hl, words_append hw hne hspace, words_blanks_append hgap,
    words_append hw' hne' hend, words_of_blanks hr]

theorem exists_first_word (hs : ¬ Blanks s) :
    ∃ l w r, Blanks l ∧ s = l ++ w ++ r ∧ w ≠ [] ∧ Unbroken w ∧ words s = w :: words r := by
  have hne : s.dropWhile isBlank ≠ [] := fun hnil => hs (List.dropWhile_eq_nil_iff.1 hnil)
  obtain ⟨c, t, ht⟩ := List.exists_cons_of_ne_nil hne
  have hc : isBlank c = false := by
    have hnot := List.head?_dropWhile_not isBlank s
    rw [ht] at hnot
    exact hnot
  have hl : Blanks (s.takeWhile isBlank) := fun d hd => List.mem_takeWhile_imp hd
  have hs : s = s.takeWhile isBlank ++ c :: t := by rw [← ht, List.takeWhile_append_dropWhile]
  let w := (c :: t).takeWhile fun d => !isBlank d
  let r := (c :: t).dropWhile fun d => !isBlank d
  have hparts : c :: t = w ++ r := List.takeWhile_append_dropWhile.symm
  have hw : Unbroken w := fun d hd => by simpa using List.mem_takeWhile_imp hd
  have hr : ∀ d ∈ r.head?, isBlank d = true := by
    intro d hd
    have hnot := List.head?_dropWhile_not (fun d => !isBlank d) (c :: t)
    rw [Option.mem_def.1 hd] at hnot
    simpa using hnot
  have hwne : w ≠ [] := by simp [w, hc]
  refine ⟨_, w, r, hl, ?_, hwne, hw, ?_⟩
  · rw [List.append_assoc, ← hparts, ← hs]
  · conv_lhs => rw [hs, words_blanks_append hl, hparts, words_append hw hwne hr]

theorem blanks_of_words_eq_nil (h : words s = []) : Blanks s := by
  by_contra hs
  obtain ⟨_, _, _, -, -, -, -, hwords⟩ := exists_first_word hs
  rw [hwords] at h
  cases h

/-- Where the first word comes from. -/
theorem exists_of_words_eq_cons {ws : List (List Char)} (h : words s = w :: ws) :
    ∃ l r, Blanks l ∧ s = l ++ w ++ r ∧ w ≠ [] ∧ Unbroken w ∧ words r = ws := by
  have hs : ¬ Blanks s := by
    intro hs
    rw [words_of_blanks hs] at h
    cases h
  obtain ⟨l, w', r, hl, hparts, hne, hw, hwords⟩ := exists_first_word hs
  rw [hwords] at h
  obtain ⟨rfl, rfl⟩ := List.cons.inj h
  exact ⟨l, r, hl, hparts, hne, hw, rfl⟩

end ResourceSync.Text
