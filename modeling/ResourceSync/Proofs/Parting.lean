import ResourceSync.Proofs.Cutting
import ResourceSync.Proofs.Traversal
import ResourceSync.Selector.Parser

/-! What the selector's parser reads: how a text comes apart into requirements, and which texts are
read as which requirement. -/
namespace ResourceSync

open Text

namespace Selector
variable {d d' : Nat} {p q raw s : List Char} {parts : List (List Char)}

/-- How many parentheses are open behind a character that stands where `d` are open; none, if it is
a comma where none is open or closes one that was not opened. -/
def scanChar (d : Nat) (c : Char) : Option Nat :=
  if c = '(' then some (d + 1)
  else if c = ')' then
    match d with
    | 0 => none
    | d + 1 => some d
  else if c = ',' ∧ d = 0 then none
  else some d

/-- How many parentheses are open behind a text that stands where `d` are open and has neither such
commas nor such closing parentheses. -/
def scan (d : Nat) (p : List Char) : Option Nat := p.foldlM scanChar d

theorem scan_cons (d : Nat) (c : Char) (p : List Char) :
    scan d (c :: p) = (scanChar d c).bind fun d' => scan d' p := rfl

theorem scan_append (d : Nat) (p q : List Char) :
    scan d (p ++ q) = (scan d p).bind fun d' => scan d' q := List.foldlM_append

theorem scan_level (h : ∀ c ∈ p, scanChar d c = some d) : scan d p = some d := by
  induction p with
  | nil => rfl
  | cons c p ih =>
    rw [scan_cons, h c List.mem_cons_self]
    exact ih fun c' hc' => h c' (List.mem_cons_of_mem c hc')

/-- Neither parentheses nor commas. -/
def Flat (p : List Char) : Prop := ∀ c ∈ p, c ≠ '(' ∧ c ≠ ')' ∧ c ≠ ','

theorem Flat.append (hp : Flat p) (hq : Flat q) : Flat (p ++ q) := fun c hc =>
  (List.mem_append.1 hc).elim (hp c) (hq c)

theorem scan_flat (h : Flat p) (d : Nat) : scan d p = some d := by
  refine scan_level fun c hc => ?_
  obtain ⟨hopen, hclose, hcomma⟩ := h c hc
  simp [scanChar, hopen, hclose, hcomma]

/-- Between parentheses commas do no harm. -/
theorem scan_inside (h : ∀ c ∈ p, c ≠ '(' ∧ c ≠ ')') (d : Nat) :
    scan (d + 1) p = some (d + 1) := by
  refine scan_level fun c hc => ?_
  obtain ⟨hopen, hclose⟩ := h c hc
  simp [scanChar, hopen, hclose]

theorem flat_of_blanks (h : Blanks p) : Flat p := by
  intro c hc
  have hblank := h c hc
  refine ⟨?_, ?_, ?_⟩
  all_goals
    rintro rfl
    exact absurd hblank (by decide)

theorem scan_trim (d : Nat) (p : List Char) : scan d (trim p) = scan d p := by
  obtain ⟨l, r, hl, hr, heq⟩ := exists_trim p
  conv_rhs => rw [heq, scan_append, scan_append, scan_flat (flat_of_blanks hl), Option.bind_some]
  cases scan d (trim p) with
  | none => rfl
  | some d' => exact (scan_flat (flat_of_blanks hr) d').symm

/-- The parts with a text in front of the first of them. -/
def prepend (p : List Char) (parts : List (List Char)) : List (List Char) :=
  p.foldr extendFirst parts

theorem prepend_cons (p q : List Char) (parts : List (List Char)) :
    prepend p (q :: parts) = (p ++ q) :: parts := by
  induction p with
  | nil => rfl
  | cons c p ih =>
    rw [prepend, List.foldr_cons, ← prepend, ih]
    rfl

theorem splitParts_cons_of_some {c : Char} (h : scanChar d c = some d') (s : List Char) :
    splitParts d (c :: s) = (splitParts d' s).map (extendFirst c) := by
  unfold scanChar at h
  rw [splitParts.eq_def]
  dsimp only
  split at h
  · next hopen =>
    obtain rfl := Option.some.inj h
    rw [if_pos hopen]
  · next hopen =>
    rw [if_neg hopen]
    split at h
    · next hclose =>
      rw [if_pos hclose]
      cases d with
      | zero => cases h
      | succ d =>
        obtain rfl := Option.some.inj h
        rfl
    · next hclose =>
      rw [if_neg hclose]
      split at h
      · cases h
      · next hcomma =>
        obtain rfl := Option.some.inj h
        rw [if_neg hcomma]

theorem splitParts_comma (s : List Char) :
    splitParts 0 (',' :: s) = (splitParts 0 s).map ([] :: ·) := by
  rw [splitParts.eq_def]
  rfl

/-- Where a part can go no further, a new one begins, or the text is refused. -/
theorem splitParts_cons_of_none {c : Char} (h : scanChar d c = none) :
    d = 0 ∧ (c = ',' ∨ ∀ s, splitParts d (c :: s) = .error .unexpectedClose) := by
  unfold scanChar at h
  split at h
  · cases h
  · next hopen =>
    split at h
    · next hclose =>
      cases d with
      | zero =>
        refine ⟨rfl, Or.inr fun s => ?_⟩
        rw [splitParts.eq_def]
        dsimp only
        rw [if_neg hopen, if_pos hclose]
      | succ d => cases h
    · split at h
      · next hcomma => exact ⟨hcomma.2, Or.inl hcomma.1⟩
      · cases h

theorem splitParts_append (h : scan d p = some d') (q : List Char) :
    splitParts d (p ++ q) = (splitParts d' q).map (prepend p) := by
  induction p generalizing d with
  | nil =>
    obtain rfl := Option.some.inj h
    cases hsplit : splitParts d q <;> simp [hsplit, Except.map, prepend]
  | cons c p ih =>
    rw [scan_cons] at h
    obtain ⟨d₁, hchar, hrest⟩ := Option.bind_eq_some_iff.1 h
    rw [List.cons_append, splitParts_cons_of_some hchar, ih hrest]
    cases splitParts d' q <;> rfl

/-- Parts between commas are found again. -/
theorem splitParts_intercalate (hne : parts ≠ []) (h : ∀ p ∈ parts, scan 0 p = some 0) :
    splitParts 0 ([','].intercalate parts) = .ok parts := by
  induction parts with
  | nil => exact absurd rfl hne
  | cons p parts ih =>
    have hp := h p List.mem_cons_self
    cases parts with
    | nil =>
      have hsplit := splitParts_append hp []
      rw [List.append_nil] at hsplit
      rw [List.intercalate_singleton, hsplit]
      simp [splitParts, Except.map, prepend_cons]
    | cons q parts =>
      rw [List.intercalate_cons_cons, List.append_assoc, splitParts_append hp,
        List.singleton_append, splitParts_comma,
        ih (by simp) fun q' hq' => h q' (List.mem_cons_of_mem p hq')]
      simp [Except.map, prepend_cons]

/-- Every part that is found closes the parentheses that it opens. -/
theorem scan_of_splitParts (h : splitParts d s = .ok parts) :
    ∃ p ps, parts = p :: ps ∧ scan d p = some 0 ∧ ∀ q ∈ ps, scan 0 q = some 0 := by
  induction s generalizing d parts with
  | nil =>
    unfold splitParts at h
    split at h
    · next hd =>
      obtain rfl := Except.ok.inj h
      exact ⟨[], [], rfl, by rw [hd]; rfl, by simp⟩
    · cases h
  | cons c s ih =>
    cases hchar : scanChar d c with
    | some d' =>
      rw [splitParts_cons_of_some hchar] at h
      cases hrest : splitParts d' s with
      | error f =>
        rw [hrest] at h
        cases h
      | ok rest =>
        rw [hrest] at h
        obtain rfl := Except.ok.inj h
        obtain ⟨p, ps, rfl, hp, hps⟩ := ih hrest
        exact ⟨c :: p, ps, rfl, by rw [scan_cons, hchar, Option.bind_some, hp], hps⟩
    | none =>
      obtain ⟨rfl, rfl | herror⟩ := splitParts_cons_of_none hchar
      · rw [splitParts_comma] at h
        cases hrest : splitParts 0 s with
        | error f =>
          rw [hrest] at h
          cases h
        | ok rest =>
          rw [hrest] at h
          obtain rfl := Except.ok.inj h
          obtain ⟨p, ps, rfl, hp, hps⟩ := ih hrest
          exact ⟨[], p :: ps, rfl, rfl, List.forall_mem_cons.2 ⟨hp, hps⟩⟩
      · rw [herror] at h
        cases h

/-- A key that is accepted. -/
def ValidKey (key : List Char) : Prop := key ≠ [] ∧ Unbroken key

theorem validKey_eq_ok_iff {key : List Char} {t : String} :
    validKey key = .ok t ↔ ValidKey key ∧ String.ofList key = t := by
  have hunbroken : Unbroken key ↔ ¬ key.any isBlank = true := by simp [Unbroken]
  rw [ValidKey, hunbroken, validKey]
  split
  · next hempty =>
    refine iff_of_false (by simp) ?_
    rintro ⟨⟨hne, -⟩, -⟩
    exact hne (List.isEmpty_iff.1 hempty)
  · next hempty =>
    have hne : key ≠ [] := fun hnil => hempty (List.isEmpty_iff.2 hnil)
    split
    · next hblank => exact iff_of_false (by simp) fun h => h.1.2 hblank
    · next hblank =>
      rw [Except.ok.injEq]
      exact (and_iff_right ⟨hne, hblank⟩).symm

theorem map_validKey_eq_ok_iff {key : List Char} {f : String → Requirement} {r : Requirement} :
    (validKey key).map f = .ok r ↔ ValidKey key ∧ f (String.ofList key) = r := by
  cases hkey : validKey key with
  | error fault =>
    refine iff_of_false (by simp [Except.map]) ?_
    rintro ⟨hvalid, -⟩
    rw [validKey_eq_ok_iff.2 ⟨hvalid, rfl⟩] at hkey
    cases hkey
  | ok t =>
    obtain ⟨hvalid, rfl⟩ := validKey_eq_ok_iff.1 hkey
    simp [Except.map, hvalid]

/-- The parts without blanks around them and without those that are blank. -/
def clauses (parts : List (List Char)) : List (List Char) :=
  (parts.map trim).filter fun part => !part.isEmpty

theorem mem_clauses : p ∈ clauses parts ↔ p ≠ [] ∧ ∃ part ∈ parts, trim part = p := by
  simp [clauses, and_comm]

theorem clauses_cons_of_blanks (h : Blanks p) : clauses (p :: parts) = clauses parts := by
  simp [clauses, trim_eq_nil_iff.2 h]

theorem clauses_cons_of_ne (h : trim p ≠ []) : clauses (p :: parts) = trim p :: clauses parts := by
  simp [clauses, h]

theorem clauses_eq_self (h : ∀ p ∈ parts, Bare p ∧ p ≠ []) : clauses parts = parts := by
  induction parts with
  | nil => rfl
  | cons p parts ih =>
    obtain ⟨hb, hne⟩ := h p List.mem_cons_self
    rw [clauses_cons_of_ne (hb.trim_eq.symm ▸ hne), hb.trim_eq,
      ih fun q hq => h q (List.mem_cons_of_mem p hq)]

/-- The members between the parentheses as texts. -/
def members (inside : List Char) : List (List Char) := clauses (inside.splitOn ',')

theorem setMembers_eq (inside : List Char) :
    setMembers inside = (members inside).map String.ofList := by
  rw [setMembers, members, clauses, splitOn_eq]

theorem toList_setMembers (inside : List Char) :
    (setMembers inside).map String.toList = members inside := by
  rw [setMembers_eq, List.map_map]
  conv_rhs => rw [← List.map_id (members inside)]
  exact List.map_congr_left fun m _ => String.toList_ofList

theorem members_intercalate (hne : parts ≠ []) (h : ∀ p ∈ parts, ',' ∉ p) :
    members ([','].intercalate parts) = clauses parts := by
  rw [members, List.splitOn_intercalate ',' h hne]

/-- A text with a key and an operator before its first parenthesis, members behind that, and nothing
behind the last one. -/
structure SetForm (raw head key operator inside behind : List Char) : Prop where
  mark : raw.head? ≠ some '!'
  unequal : '=' ∉ raw
  parted : raw = head ++ '(' :: inside ++ ')' :: behind
  first : '(' ∉ head
  last : ')' ∉ behind
  nothing : Blanks behind
  nonempty : members inside ≠ []
  words : words head = [key, operator]

/-- Which texts are read as which requirement. The forms are tried in this order, so that each rule
excludes the signs of the forms before it. -/
inductive Reads : List Char → Requirement → Prop
  | absent {raw key} (parted : raw = '!' :: key) (valid : ValidKey (trim key)) :
      Reads raw (.absent (String.ofList (trim key)))
  | notEquals {raw key value} (mark : raw.head? ≠ some '!')
      (parted : raw = key ++ '!' :: '=' :: value) (first : ¬ ['!', '='] <:+: key ++ ['!'])
      (valid : ValidKey (trim key)) :
      Reads raw (.notEquals (String.ofList (trim key)) (String.ofList (trim value)))
  | doubleEquals {raw key value} (mark : raw.head? ≠ some '!') (unequal : ¬ ['!', '='] <:+: raw)
      (parted : raw = key ++ '=' :: '=' :: value) (first : ¬ ['=', '='] <:+: key ++ ['='])
      (valid : ValidKey (trim key)) :
      Reads raw (.equals (String.ofList (trim key)) (String.ofList (trim value)))
  | equals {raw key value} (mark : raw.head? ≠ some '!') (unequal : ¬ ['!', '='] <:+: raw)
      (double : ¬ ['=', '='] <:+: raw) (parted : raw = key ++ '=' :: value) (first : '=' ∉ key)
      (valid : ValidKey (trim key)) :
      Reads raw (.equals (String.ofList (trim key)) (String.ofList (trim value)))
  | oneOf {raw head key inside behind : List Char}
      (form : SetForm raw head key ['i', 'n'] inside behind) :
      Reads raw (.oneOf (String.ofList key) (setMembers inside))
  | noneOf {raw head key inside behind : List Char}
      (form : SetForm raw head key ['n', 'o', 't', 'i', 'n'] inside behind) :
      Reads raw (.noneOf (String.ofList key) (setMembers inside))
  | present {raw : List Char} (mark : raw.head? ≠ some '!') (unequal : '=' ∉ raw)
      (bracket : '(' ∉ raw) (valid : ValidKey raw) : Reads raw (.present (String.ofList raw))

theorem after?_mark_eq_none_iff : after? ['!'] raw = none ↔ raw.head? ≠ some '!' := by
  rw [after?_eq_none_iff]
  cases raw with
  | nil => simp
  | cons c raw => simp [List.cons_prefix_cons, eq_comm]

/-- A set is read where blanks alone follow its parenthesis and two words precede the other. -/
theorem parseSet_eq_ok_iff {text : String} {head rest : List Char} {r : Requirement} :
    parseSet text head rest = .ok r ↔
      ∃ inside behind key, rest = inside ++ ')' :: behind ∧ ')' ∉ behind ∧ Blanks behind ∧
        members inside ≠ [] ∧
        (words head = [key, ['i', 'n']] ∧
            .oneOf (String.ofList key) (setMembers inside) = r ∨
          words head = [key, ['n', 'o', 't', 'i', 'n']] ∧
            .noneOf (String.ofList key) (setMembers inside) = r) := by
  have hkey {key : List Char} {ws : List (List Char)} (hw : words head = key :: ws) :
      ValidKey key := by
    obtain ⟨l, r, -, -, hne, hunbroken, -⟩ := exists_of_words_eq_cons hw
    exact ⟨hne, hunbroken⟩
  have hmembers (inside : List Char) :
      (setMembers inside).isEmpty = true ↔ members inside = [] := by
    rw [setMembers_eq, List.isEmpty_iff, List.map_eq_nil_iff]
  constructor
  · intro h
    unfold parseSet at h
    cases hcut : cutLast? ')' rest with
    | none =>
      rw [hcut] at h
      cases h
    | some cut =>
      obtain ⟨inside, behind⟩ := cut
      obtain ⟨hrest, hlast⟩ := cutLast?_eq_some_iff.1 hcut
      simp only [hcut] at h
      split at h
      · cases h
      · next hbehind =>
        split at h
        · cases h
        · next hsome =>
          have hblanks : Blanks behind := trim_eq_nil_iff.1 (by simpa using hbehind)
          have hne : members inside ≠ [] := fun hnil => hsome ((hmembers inside).2 hnil)
          refine ⟨inside, behind, (words head).headD [], hrest, hlast, hblanks, hne, ?_⟩
          cases hw : words head with
          | nil => simp [hw] at h
          | cons key ws =>
            cases ws with
            | nil => simp [hw] at h
            | cons operator ws =>
              cases ws with
              | cons => simp [hw] at h
              | nil =>
                simp only [hw, List.headD_cons, List.drop_succ_cons, List.drop_zero] at h ⊢
                split at h
                · next hop => exact Or.inl ⟨by rw [hop], (map_validKey_eq_ok_iff.1 h).2⟩
                · split at h
                  · next hop => exact Or.inr ⟨by rw [hop], (map_validKey_eq_ok_iff.1 h).2⟩
                  · cases h
  · rintro ⟨inside, behind, key, hrest, hlast, hblanks, hne, h⟩
    have hcut := cutLast?_eq_some_iff.2 ⟨hrest, hlast⟩
    have hsome : ¬ (setMembers inside).isEmpty = true := fun hnil => hne ((hmembers inside).1 hnil)
    unfold parseSet
    simp only [hcut, trim_eq_nil_iff.2 hblanks, List.isEmpty_nil, Bool.not_true, Bool.false_eq_true,
      if_false, if_neg hsome]
    rcases h with ⟨hw, hr⟩ | ⟨hw, hr⟩
    · simp only [hw, List.headD_cons, List.drop_succ_cons, List.drop_zero, if_true]
      exact map_validKey_eq_ok_iff.2 ⟨hkey hw, hr⟩
    · simp only [hw, List.headD_cons, List.drop_succ_cons, List.drop_zero]
      rw [if_neg (by decide), if_pos trivial]
      exact map_validKey_eq_ok_iff.2 ⟨hkey hw, hr⟩

/-- What the parser reads is read by one of the rules. -/
theorem reads_of_parseRequirement {r : Requirement} (h : parseRequirement raw = .ok r) :
    Reads raw r := by
  unfold parseRequirement at h
  cases hmark : after? ['!'] raw with
  | some key =>
    simp only [hmark] at h
    obtain ⟨hvalid, rfl⟩ := map_validKey_eq_ok_iff.1 h
    exact .absent (after?_eq_some_iff.1 hmark) hvalid
  | none =>
    have hhead := after?_mark_eq_none_iff.1 hmark
    simp only [hmark] at h
    cases hunequal : cut? ['!', '='] raw with
    | some cut =>
      obtain ⟨hraw, hfirst⟩ := (cut?_eq_some_iff (List.cons_ne_nil _ _)).1 hunequal
      simp only [hunequal] at h
      obtain ⟨hvalid, rfl⟩ := map_validKey_eq_ok_iff.1 h
      exact .notEquals hhead (by simpa using hraw) hfirst hvalid
    | none =>
      have hunequal' := (cut?_eq_none_iff (List.cons_ne_nil _ _)).1 hunequal
      simp only [hunequal] at h
      cases hdouble : cut? ['=', '='] raw with
      | some cut =>
        obtain ⟨hraw, hfirst⟩ := (cut?_eq_some_iff (List.cons_ne_nil _ _)).1 hdouble
        simp only [hdouble, Option.some_or] at h
        obtain ⟨hvalid, rfl⟩ := map_validKey_eq_ok_iff.1 h
        exact .doubleEquals hhead hunequal' (by simpa using hraw) hfirst hvalid
      | none =>
        have hdouble' := (cut?_eq_none_iff (List.cons_ne_nil _ _)).1 hdouble
        simp only [hdouble, Option.none_or] at h
        cases hsign : cut? ['='] raw with
        | some cut =>
          obtain ⟨hraw, hfirst⟩ := cut?_singleton.1 hsign
          simp only [hsign] at h
          obtain ⟨hvalid, rfl⟩ := map_validKey_eq_ok_iff.1 h
          exact .equals hhead hunequal' hdouble' hraw hfirst hvalid
        | none =>
          have hsign' : '=' ∉ raw := fun hmem =>
            (cut?_eq_none_iff (by simp)).1 hsign (singleton_infix_iff.2 hmem)
          simp only [hsign] at h
          cases hset : cut? ['('] raw with
          | some cut =>
            obtain ⟨head, rest⟩ := cut
            obtain ⟨hraw, hfirst⟩ := cut?_singleton.1 hset
            simp only [hset] at h
            obtain ⟨inside, behind, key, rfl, hlast, hblanks, hne, ⟨hw, rfl⟩ | ⟨hw, rfl⟩⟩ :=
              parseSet_eq_ok_iff.1 h
            · exact .oneOf ⟨hhead, hsign', by simpa using hraw, hfirst, hlast, hblanks, hne, hw⟩
            · exact .noneOf ⟨hhead, hsign', by simpa using hraw, hfirst, hlast, hblanks, hne, hw⟩
          | none =>
            have hset' : '(' ∉ raw := fun hmem =>
              (cut?_eq_none_iff (by simp)).1 hset (singleton_infix_iff.2 hmem)
            simp only [hset] at h
            split at h
            · cases h
            · obtain ⟨hvalid, rfl⟩ := map_validKey_eq_ok_iff.1 h
              exact .present hhead hsign' hset' hvalid

/-- What is read by a rule is read by the parser: no form before that of the rule applies. -/
theorem Reads.parseRequirement_eq {r : Requirement} (h : Reads raw r) :
    parseRequirement raw = .ok r := by
  have hno {c : Char} (hmem : c ∉ raw) : cut? [c] raw = none :=
    (cut?_eq_none_iff (by simp)).2 fun hin => hmem (singleton_infix_iff.1 hin)
  have hpair {x : Char} (hmem : '=' ∉ raw) : cut? [x, '='] raw = none :=
    (cut?_eq_none_iff (by simp)).2 fun hin =>
      hmem (hin.subset (by simp))
  unfold parseRequirement
  cases h with
  | absent hraw hvalid =>
    rw [(after?_eq_some_iff (l := ['!'])).2 hraw]
    exact map_validKey_eq_ok_iff.2 ⟨hvalid, rfl⟩
  | notEquals hhead hraw hfirst hvalid =>
    rw [after?_mark_eq_none_iff.2 hhead,
      (cut?_eq_some_iff (List.cons_ne_nil _ _)).2 ⟨by simpa using hraw, hfirst⟩]
    exact map_validKey_eq_ok_iff.2 ⟨hvalid, rfl⟩
  | doubleEquals hhead hunequal hraw hfirst hvalid =>
    rw [after?_mark_eq_none_iff.2 hhead, (cut?_eq_none_iff (List.cons_ne_nil _ _)).2 hunequal,
      (cut?_eq_some_iff (List.cons_ne_nil _ _)).2 ⟨by simpa using hraw, hfirst⟩]
    exact map_validKey_eq_ok_iff.2 ⟨hvalid, rfl⟩
  | equals hhead hunequal hdouble hraw hfirst hvalid =>
    rw [after?_mark_eq_none_iff.2 hhead, (cut?_eq_none_iff (List.cons_ne_nil _ _)).2 hunequal,
      (cut?_eq_none_iff (List.cons_ne_nil _ _)).2 hdouble, cut?_singleton.2 ⟨hraw, hfirst⟩]
    exact map_validKey_eq_ok_iff.2 ⟨hvalid, rfl⟩
  | oneOf form =>
    rw [after?_mark_eq_none_iff.2 form.mark, hpair form.unequal, hpair form.unequal,
      hno form.unequal, cut?_singleton.2 ⟨by simpa using form.parted, form.first⟩]
    exact parseSet_eq_ok_iff.2 ⟨_, _, _, rfl, form.last, form.nothing, form.nonempty,
      Or.inl ⟨form.words, rfl⟩⟩
  | noneOf form =>
    rw [after?_mark_eq_none_iff.2 form.mark, hpair form.unequal, hpair form.unequal,
      hno form.unequal, cut?_singleton.2 ⟨by simpa using form.parted, form.first⟩]
    exact parseSet_eq_ok_iff.2 ⟨_, _, _, rfl, form.last, form.nothing, form.nonempty,
      Or.inr ⟨form.words, rfl⟩⟩
  | present hhead hsign hbracket hvalid =>
    have hunbroken : ¬ raw.any isBlank = true := by simpa [Unbroken] using hvalid.2
    rw [after?_mark_eq_none_iff.2 hhead, hpair hsign, hpair hsign, hno hsign, hno hbracket]
    simp only [Option.or_none, if_neg hunbroken]
    exact map_validKey_eq_ok_iff.2 ⟨hvalid, rfl⟩

/-- The rules say what the parser reads. -/
theorem parseRequirement_eq_ok_iff {r : Requirement} :
    parseRequirement raw = .ok r ↔ Reads raw r :=
  ⟨reads_of_parseRequirement, Reads.parseRequirement_eq⟩

theorem parseRequirements_eq_ok_iff {rs : List Requirement} : parseRequirements s = .ok rs ↔
    ∃ parts, splitParts 0 s = .ok parts ∧ List.Forall₂ Reads (clauses parts) rs := by
  have hreads (parts : List (List Char)) : (clauses parts).mapM parseRequirement = .ok rs ↔
      List.Forall₂ Reads (clauses parts) rs := by
    simp only [mapM_eq_ok_iff, parseRequirement_eq_ok_iff]
  unfold parseRequirements
  cases hparts : splitParts 0 s with
  | error f => simp [bind, Except.bind]
  | ok parts =>
    simp only [Except.ok.injEq, exists_eq_left', ← hreads]
    rfl

theorem parse_eq_ok_iff {t : String} {f : Selector} :
    parse t = .ok f ↔ parseRequirements t.toList = .ok f.requirements := by
  unfold parse
  cases parseRequirements t.toList with
  | error fault => simp
  | ok rs =>
    obtain ⟨rs'⟩ := f
    simp

end Selector

end ResourceSync
