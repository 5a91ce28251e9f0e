import ResourceSync.Proofs.Parting

/-! Which selectors are read again from their own text: all but those that compare a label for
equality and have a stray sign in the key or the value. -/
namespace ResourceSync

open Text Selector

/-- A key, an operator and the members of a set, as they are written. -/
def Selector.setText (key operator : List Char) (members : List (List Char)) : List Char :=
  (key ++ ' ' :: operator ++ [' ']) ++ '(' :: [','].intercalate members ++ ')' :: []

namespace Requirement

theorem toList_text_equals (key value : String) :
    (equals key value).text.toList = key.toList ++ '=' :: value.toList := by
  simp [text, toString]

theorem toList_text_notEquals (key value : String) :
    (notEquals key value).text.toList = key.toList ++ '!' :: '=' :: value.toList := by
  simp [text, toString]

theorem toList_text_oneOf (key : String) (members : List String) :
    (oneOf key members).text.toList =
      setText key.toList ['i', 'n'] (members.map String.toList) := by
  simp [text, setText]

theorem toList_text_noneOf (key : String) (members : List String) :
    (noneOf key members).text.toList =
      setText key.toList ['n', 'o', 't', 'i', 'n'] (members.map String.toList) := by
  simp [text, setText]

theorem toList_text_absent (key : String) : (absent key).text.toList = '!' :: key.toList := by
  simp [text, toString]

theorem toList_text_present (key : String) : (present key).text.toList = key.toList := rfl

/-- Whether a requirement is read again from its text. The sign of an equality is taken for another
if an equals sign or a final exclamation mark is left in the key, or if two equals signs stand side
by side from it on. -/
def Rereads : Requirement → Prop
  | equals key value => '=' ∉ key.toList ∧ key.toList.getLast? ≠ some '!' ∧
      ¬ ['=', '='] <:+: '=' :: value.toList
  | _ => True

end Requirement

namespace Selector
variable {d d' : Nat} {raw key value inside head : List Char} {parts : List (List Char)}
  {r : Requirement}

theorem of_mem_members {m : List Char} (h : m ∈ members inside) :
    m ≠ [] ∧ Bare m ∧ ',' ∉ m ∧ m ⊆ inside := by
  obtain ⟨hne, part, hpart, rfl⟩ := mem_clauses.1 h
  obtain ⟨hno, hsub⟩ := of_mem_splitOn hpart
  have htrim := (trim_isInfix part).subset
  exact ⟨hne, bare_trim part, fun hc => hno (htrim hc), fun c hc => hsub (htrim hc)⟩

/-- Parts that are cleared of blanks leave as many parentheses open. -/
theorem scan_clauses (h : scan d ([','].intercalate parts) = some d') :
    scan d ([','].intercalate (clauses parts)) = some d' := by
  induction parts generalizing d with
  | nil => exact h
  | cons p parts ih =>
    have hblank (htrim : trim p = []) {d₁ : Nat} (hp : scan d p = some d₁) : d = d₁ := by
      rw [← scan_trim, htrim] at hp
      exact Option.some.inj hp
    cases parts with
    | nil =>
      rw [List.intercalate_singleton] at h
      by_cases htrim : trim p = []
      · rw [clauses_cons_of_blanks (trim_eq_nil_iff.1 htrim), hblank htrim h]
        rfl
      · rw [clauses_cons_of_ne htrim]
        simpa [clauses] using (scan_trim d p).trans h
    | cons q parts =>
      rw [List.intercalate_cons_cons, List.append_assoc, scan_append] at h
      obtain ⟨d₁, hp, hrest⟩ := Option.bind_eq_some_iff.1 h
      rw [List.singleton_append, scan_cons] at hrest
      obtain ⟨d₂, hcomma, hrest⟩ := Option.bind_eq_some_iff.1 hrest
      obtain ⟨hopen, rfl⟩ : d₁ ≠ 0 ∧ d₁ = d₂ := by simpa [scanChar] using hcomma
      have hfound := ih hrest
      by_cases htrim : trim p = []
      · rwa [clauses_cons_of_blanks (trim_eq_nil_iff.1 htrim), hblank htrim hp]
      · rw [← scan_trim] at hp
        rw [clauses_cons_of_ne htrim]
        cases hms : clauses (q :: parts) with
        | nil =>
          rw [hms] at hfound
          obtain rfl : d₁ = d' := Option.some.inj hfound
          rwa [List.intercalate_singleton]
        | cons m ms =>
          rw [hms] at hfound
          rw [List.intercalate_cons_cons, List.append_assoc, scan_append, hp, Option.bind_some,
            List.singleton_append, scan_cons, hcomma, Option.bind_some, hfound]

/-- The key of a requirement begins it. -/
theorem head?_of_bare {l m : List Char} (hb : Bare raw) (hparted : raw = l ++ key ++ m)
    (hl : Blanks l) (hkey : ValidKey key) : key.head? = raw.head? := by
  subst hparted
  exact hb.head?_eq hl hkey.1

theorem head?_trim {m : List Char} (hb : Bare raw) (hparted : raw = key ++ m)
    (hkey : ValidKey (trim key)) : (trim key).head? = raw.head? := by
  obtain ⟨l, t, hl, -, heq⟩ := exists_trim key
  refine head?_of_bare (m := t ++ m) hb ?_ hl hkey
  rw [hparted, ← List.append_assoc, ← heq]

section set
variable {operator behind : List Char} (h : SetForm raw head key operator inside behind)
include h

/-- Where key and operator come from. -/
theorem SetForm.exists_words : ∃ l m n, Blanks l ∧ Blanks m ∧ Blanks n ∧
    head = l ++ key ++ (m ++ operator ++ n) ∧ ValidKey key ∧ ValidKey operator := by
  obtain ⟨l, rest, hl, rfl, hkey, hunbroken, hrest⟩ := exists_of_words_eq_cons h.words
  obtain ⟨m, n, hm, rfl, hoperator, hunbroken', hnone⟩ := exists_of_words_eq_cons hrest
  exact ⟨l, m, n, hl, hm, blanks_of_words_eq_nil hnone, rfl, ⟨hkey, hunbroken⟩,
    ⟨hoperator, hunbroken'⟩⟩

theorem SetForm.bare_text : Bare (setText key operator (members inside)) := by
  obtain ⟨_, _, _, -, -, -, -, hkey, -⟩ := h.exists_words
  have hclose : Bare [')'] := (unbroken_of_any (by decide)).bare
  have haround := hkey.2.bare.around hclose hkey.1 (by simp)
    (' ' :: operator ++ [' '] ++ '(' :: [','].intercalate (members inside))
  simpa [setText] using haround

theorem SetForm.scan_text (hflat : Flat operator) (hscan : scan 0 raw = some 0) :
    scan 0 (setText key operator (members inside)) = some 0 := by
  obtain ⟨l, m, n, hl, hm, hn, hhead, -, -⟩ := h.exists_words
  have hkey : scan 0 head = scan 0 key := by
    rw [hhead]
    simp only [scan_append, scan_flat (flat_of_blanks hl), scan_flat (flat_of_blanks hm),
      scan_flat (flat_of_blanks hn), scan_flat hflat, Option.bind_some, Option.bind_fun_some]
  have hspaced (d : Nat) : scan d (' ' :: operator ++ [' ']) = some d := by
    refine scan_flat ?_ d
    intro c hc
    simp only [List.cons_append, List.mem_cons, List.mem_append, List.not_mem_nil, or_false] at hc
    rcases hc with rfl | hc | rfl
    · decide
    · exact hflat c hc
    · decide
  rw [h.parted, scan_append, scan_append, hkey] at hscan
  obtain ⟨d₂, hopen, hclose⟩ := Option.bind_eq_some_iff.1 hscan
  obtain ⟨d₁, hd₁, hinside⟩ := Option.bind_eq_some_iff.1 hopen
  have hinside' : scan (d₁ + 1) inside = some d₂ := hinside
  have hmembers : scan (d₁ + 1) ([','].intercalate (members inside)) = some d₂ := by
    have hparts : scan (d₁ + 1) ([','].intercalate (inside.splitOn ',')) = some d₂ := by
      rw [List.intercalate_splitOn, hinside']
    exact scan_clauses hparts
  have hnothing : scan d₂ [')'] = some 0 := by
    rw [scan_cons] at hclose ⊢
    obtain ⟨d₃, hd₃, hbehind⟩ := Option.bind_eq_some_iff.1 hclose
    rw [scan_flat (flat_of_blanks h.nothing)] at hbehind
    rw [hd₃, Option.bind_some, ← hbehind]
    rfl
  rw [setText, List.append_assoc key, scan_append, scan_append, scan_append, hd₁, Option.bind_some,
    hspaced, Option.bind_some, scan_cons]
  change (scan (d₁ + 1) _).bind _ = _
  rw [hmembers, Option.bind_some, hnothing]

/-- The members are found again. -/
theorem SetForm.members_inside : members ([','].intercalate (members inside)) = members inside := by
  rw [members_intercalate h.nonempty fun _ hm => (of_mem_members hm).2.2.1]
  exact clauses_eq_self fun _ hm => ⟨(of_mem_members hm).2.1, (of_mem_members hm).1⟩

/-- A set is found again in its own text. -/
theorem SetForm.reform (hb : Bare raw) (hflat : Flat operator) (hequal : '=' ∉ operator) :
    SetForm (setText key operator (members inside)) (key ++ ' ' :: operator ++ [' ']) key operator
      ([','].intercalate (members inside)) [] := by
  obtain ⟨l, m, n, hl, hm, hn, hhead, hkey, hoperator⟩ := h.exists_words
  have hsub : key ⊆ head := by
    rw [hhead]
    intro c hc
    simp [hc]
  refine ⟨?_, ?_, rfl, ?_, by simp, blanks_nil, h.members_inside.symm ▸ h.nonempty, ?_⟩
  · have hfirst : key.head? = raw.head? := by
      refine head?_of_bare (m := m ++ operator ++ n ++ '(' :: inside ++ ')' :: behind) hb ?_ hl hkey
      rw [h.parted, hhead]
      simp
    have hstart : (setText key operator (members inside)).head? = key.head? := by
      simp only [setText, List.append_assoc]
      exact List.head?_append_of_ne_nil _ hkey.1
    rw [hstart, hfirst]
    exact h.mark
  · have hraw : '=' ∉ head ++ '(' :: inside ++ ')' :: behind := h.parted ▸ h.unequal
    simp only [List.mem_append, List.mem_cons, not_or] at hraw
    have hinside : '=' ∉ [','].intercalate (members inside) := by
      intro hc
      rcases mem_intercalate hc with hc | ⟨v, hv, hc⟩
      · cases hc
      · exact hraw.1.2.2 ((of_mem_members hv).2.2.2 hc)
    have hkeyed : '=' ∉ key := fun hc => hraw.1.1 (hsub hc)
    simp [setText, hinside, hkeyed, hequal]
  · have hkeyed : '(' ∉ key := fun hc => h.first (hsub hc)
    have hopen : '(' ∉ operator := fun hc => (hflat '(' hc).1 rfl
    simp [hkeyed, hopen]
  · have hblank : Blanks [' '] := blanks_singleton rfl
    have hpair :=
      words_pair blanks_nil hkey.2 hkey.1 hblank (by simp) hoperator.2 hoperator.1 hblank
    simpa using hpair

end set

/-- A requirement is written without blanks around it, and not as nothing. -/
theorem Reads.bare_text (h : Reads raw r) (hb : Bare raw) :
    Bare r.text.toList ∧ r.text.toList ≠ [] := by
  have hmark : Bare ['!'] := (unbroken_of_any (by decide)).bare
  have hsign : Bare ['='] := (unbroken_of_any (by decide)).bare
  have hunequal : Bare ['!', '='] := (unbroken_of_any (by decide)).bare
  cases h with
  | absent hraw hvalid =>
    rw [Requirement.toList_text_absent, String.toList_ofList]
    exact ⟨hmark.append (bare_trim _), by simp⟩
  | notEquals hhead hraw hfirst hvalid =>
    rw [Requirement.toList_text_notEquals, String.toList_ofList, String.toList_ofList]
    exact ⟨(bare_trim _).append (hunequal.append (bare_trim _)), by simp⟩
  | doubleEquals hhead hmarked hraw hfirst hvalid =>
    rw [Requirement.toList_text_equals, String.toList_ofList, String.toList_ofList]
    exact ⟨(bare_trim _).append (hsign.append (bare_trim _)), by simp⟩
  | equals hhead hmarked hdouble hraw hfirst hvalid =>
    rw [Requirement.toList_text_equals, String.toList_ofList, String.toList_ofList]
    exact ⟨(bare_trim _).append (hsign.append (bare_trim _)), by simp⟩
  | oneOf form =>
    rw [Requirement.toList_text_oneOf, String.toList_ofList, toList_setMembers]
    exact ⟨form.bare_text, by simp [setText]⟩
  | noneOf form =>
    rw [Requirement.toList_text_noneOf, String.toList_ofList, toList_setMembers]
    exact ⟨form.bare_text, by simp [setText]⟩
  | present hhead hsign hbracket hvalid =>
    rw [Requirement.toList_text_present, String.toList_ofList]
    exact ⟨hb, hvalid.1⟩

/-- A requirement is written as one part again. -/
theorem Reads.scan_text (h : Reads raw r) (hscan : scan 0 raw = some 0) :
    scan 0 r.text.toList = some 0 := by
  have hsign (d : Nat) (p : List Char) : scan d ('=' :: p) = scan d p := rfl
  have hmark (d : Nat) (p : List Char) : scan d ('!' :: p) = scan d p := rfl
  cases h with
  | absent hraw hvalid =>
    rw [Requirement.toList_text_absent, String.toList_ofList, hmark, scan_trim]
    rwa [hraw, hmark] at hscan
  | notEquals hhead hraw hfirst hvalid =>
    rw [hraw, scan_append] at hscan
    rw [Requirement.toList_text_notEquals, String.toList_ofList, String.toList_ofList, scan_append,
      scan_trim]
    simpa only [hmark, hsign, scan_trim] using hscan
  | doubleEquals hhead hunequal hraw hfirst hvalid =>
    rw [hraw, scan_append] at hscan
    rw [Requirement.toList_text_equals, String.toList_ofList, String.toList_ofList, scan_append,
      scan_trim]
    simpa only [hsign, scan_trim] using hscan
  | equals hhead hunequal hdouble hraw hfirst hvalid =>
    rw [hraw, scan_append] at hscan
    rw [Requirement.toList_text_equals, String.toList_ofList, String.toList_ofList, scan_append,
      scan_trim]
    simpa only [hsign, scan_trim] using hscan
  | oneOf form =>
    rw [Requirement.toList_text_oneOf, String.toList_ofList, toList_setMembers]
    exact form.scan_text (by simp [Flat]) hscan
  | noneOf form =>
    rw [Requirement.toList_text_noneOf, String.toList_ofList, toList_setMembers]
    exact form.scan_text (by simp [Flat]) hscan
  | present hhead hsign hbracket hvalid =>
    rwa [Requirement.toList_text_present, String.toList_ofList]

/-- A comparison is read again where the signs in its text are found as they were written. -/
theorem reads_equals_iff (hkey : ValidKey key) (hvalue : Bare value) (hmark : key.head? ≠ some '!')
    (hunequal : ¬ ['!', '='] <:+: value) :
    Reads (key ++ '=' :: value) (.equals (String.ofList key) (String.ofList value)) ↔
      '=' ∉ key ∧ key.getLast? ≠ some '!' ∧ ¬ ['=', '='] <:+: '=' :: value := by
  have htrim := hkey.2.bare.trim_eq
  have hlength (p : List Char) : (trim p).length ≤ p.length := (trim_isInfix p).length_le
  constructor
  · intro h
    generalize htext : key ++ '=' :: value = text at h
    generalize hk : String.ofList key = k at h
    generalize hv : String.ofList value = v at h
    cases h with
    | @doubleEquals key' value' hhead hmarked hraw hfirst hvalid =>
      -- a text with two signs is longer than what is written of it
      have hk' := String.ofList_injective hk
      have hv' := String.ofList_injective hv
      have hlong := congrArg List.length (htext.trans hraw)
      have hkey' := hlength key'
      have hvalue' := hlength value'
      simp only [List.length_append, List.length_cons, hk', hv'] at hlong
      omega
    | @equals key' value' hhead hmarked hdouble hraw hfirst hvalid =>
      have hk' := String.ofList_injective hk
      have hv' := String.ofList_injective hv
      have hsame := htext.trans hraw
      have hlong := congrArg List.length hsame
      have hkey' := hlength key'
      have hvalue' := hlength value'
      rw [← hk'] at hkey'
      rw [← hv'] at hvalue'
      simp only [List.length_append, List.length_cons] at hlong
      obtain ⟨rfl, -⟩ := List.append_inj hsame (by omega)
      refine ⟨hfirst, fun hlast => hmarked ?_, fun hin => hdouble ?_⟩
      · rw [← htext, pair_infix_append_iff]
        exact Or.inr (Or.inr ⟨hlast, rfl⟩)
      · rw [← htext]
        exact hin.trans (List.suffix_append key _).isInfix
  · rintro ⟨hfirst, hlast, hdouble⟩
    have hpair {x : Char} : ¬ [x, '='] <:+: key := fun hin => hfirst (hin.subset (by simp))
    have hreads : Reads (key ++ '=' :: value)
        (.equals (String.ofList (trim key)) (String.ofList (trim value))) := by
      refine .equals ?_ ?_ ?_ rfl hfirst (htrim.symm ▸ hkey)
      · rwa [List.head?_append_of_ne_nil _ hkey.1]
      · rw [pair_infix_append_iff]
        rintro (hin | hin | ⟨hends, -⟩)
        · exact hpair hin
        · rcases List.infix_cons_iff.1 hin with hstart | hin
          · simp at hstart
          · exact hunequal hin
        · exact hlast hends
      · rw [pair_infix_append_iff]
        rintro (hin | hin | ⟨hends, -⟩)
        · exact hpair hin
        · exact hdouble hin
        · exact hfirst (List.mem_of_getLast? hends)
    rwa [htrim, hvalue.trim_eq] at hreads

/-- Which requirements are read again. -/
theorem Reads.text_iff (h : Reads raw r) (hb : Bare raw) :
    Reads r.text.toList r ↔ r.Rereads := by
  have hcompared {key value : List Char} (hkey : ValidKey (trim key))
      (hhead : (trim key).head? ≠ some '!') (hunequal : ¬ ['!', '='] <:+: trim value) :
      Reads (Requirement.equals (String.ofList (trim key)) (String.ofList (trim value))).text.toList
        (.equals (String.ofList (trim key)) (String.ofList (trim value))) ↔
      (Requirement.equals (String.ofList (trim key)) (String.ofList (trim value))).Rereads := by
    rw [Requirement.toList_text_equals, Requirement.Rereads]
    simp only [String.toList_ofList]
    exact reads_equals_iff hkey (bare_trim value) hhead hunequal
  cases h with
  | @absent key hraw hvalid =>
    refine iff_of_true ?_ trivial
    have hreads := Reads.absent rfl ((trim_trim key).symm ▸ hvalid)
    rw [trim_trim] at hreads
    rwa [Requirement.toList_text_absent, String.toList_ofList]
  | @notEquals key value hhead hraw hfirst hvalid =>
    refine iff_of_true ?_ trivial
    have hstart := head?_trim hb hraw hvalid
    have hreads : Reads (trim key ++ '!' :: '=' :: trim value)
        (.notEquals (String.ofList (trim (trim key))) (String.ofList (trim (trim value)))) := by
      refine .notEquals ?_ rfl ?_ ((trim_trim key).symm ▸ hvalid)
      · rwa [List.head?_append_of_ne_nil _ hvalid.1, hstart]
      · rw [pair_infix_append_iff]
        rintro (hin | hin | ⟨-, hends⟩)
        · have hbefore := hin.trans (trim_isInfix key)
          exact hfirst (hbefore.trans (List.prefix_append key ['!']).isInfix)
        · simpa using hin.length_le
        · simp at hends
    rw [trim_trim, trim_trim] at hreads
    rwa [Requirement.toList_text_notEquals, String.toList_ofList, String.toList_ofList]
  | @doubleEquals key value hhead hmarked hraw hfirst hvalid =>
    have hstart := head?_trim hb hraw hvalid
    refine hcompared hvalid (hstart ▸ hhead) fun hin => hmarked ?_
    rw [hraw, List.append_cons, List.append_cons]
    exact (hin.trans (trim_isInfix value)).trans (List.suffix_append _ value).isInfix
  | @equals key value hhead hmarked hdouble hraw hfirst hvalid =>
    have hstart := head?_trim hb hraw hvalid
    refine hcompared hvalid (hstart ▸ hhead) fun hin => hmarked ?_
    rw [hraw, List.append_cons]
    exact (hin.trans (trim_isInfix value)).trans (List.suffix_append _ value).isInfix
  | @oneOf _ _ _ _ form =>
    refine iff_of_true ?_ trivial
    have hreads := Reads.oneOf (form.reform hb (by simp [Flat]) (by simp))
    rw [setMembers_eq, form.members_inside, ← setMembers_eq] at hreads
    rwa [Requirement.toList_text_oneOf, String.toList_ofList, toList_setMembers]
  | @noneOf _ _ _ _ form =>
    refine iff_of_true ?_ trivial
    have hreads := Reads.noneOf (form.reform hb (by simp [Flat]) (by simp))
    rw [setMembers_eq, form.members_inside, ← setMembers_eq] at hreads
    rwa [Requirement.toList_text_noneOf, String.toList_ofList, toList_setMembers]
  | present hhead hsign hbracket hvalid =>
    refine iff_of_true ?_ trivial
    rw [Requirement.toList_text_present, String.toList_ofList]
    exact .present hhead hsign hbracket hvalid

/-- What is known of each requirement of a text. -/
theorem of_mem_requirements {rs : List Requirement} (h : parseRequirements s = .ok rs)
    (hr : r ∈ rs) : Bare r.text.toList ∧ r.text.toList ≠ [] ∧ scan 0 r.text.toList = some 0 ∧
      (Reads r.text.toList r ↔ r.Rereads) := by
  obtain ⟨parts, hparts, hreads⟩ := parseRequirements_eq_ok_iff.1 h
  obtain ⟨raw, hraw, hread⟩ := exists_of_mem_right hreads hr
  obtain ⟨-, part, hpart, rfl⟩ := mem_clauses.1 hraw
  have hbare : Bare (trim part) := bare_trim part
  have hscan : scan 0 (trim part) = some 0 := by
    rw [scan_trim]
    obtain ⟨p, ps, rfl, hp, hps⟩ := scan_of_splitParts hparts
    rcases List.mem_cons.1 hpart with rfl | hpart
    · exact hp
    · exact hps part hpart
  obtain ⟨hb, hne⟩ := hread.bare_text hbare
  exact ⟨hb, hne, hread.scan_text hscan, hread.text_iff hbare⟩

theorem toList_text (f : Selector) :
    f.text.toList = [','].intercalate (f.requirements.map fun r => r.text.toList) := by
  simp [Selector.text, String.toList_intercalate, List.map_map, Function.comp_def]

/-- A selector is read again from its own text exactly if each of its requirements is. -/
theorem parse_text_iff {t : String} {f : Selector} (h : parse t = .ok f) :
    parse f.text = .ok f ↔ ∀ r ∈ f.requirements, r.Rereads := by
  have hknown := fun r hr => of_mem_requirements (r := r) (parse_eq_ok_iff.1 h) hr
  rw [parse_eq_ok_iff, parseRequirements_eq_ok_iff, toList_text]
  obtain ⟨rs⟩ := f
  cases rs with
  | nil => simp [splitParts, clauses, trim, dropEndWhile]
  | cons r rs =>
    have hsplit : splitParts 0 ([','].intercalate ((r :: rs).map fun r => r.text.toList)) =
        .ok ((r :: rs).map fun r => r.text.toList) := by
      refine splitParts_intercalate (by simp) fun p hp => ?_
      obtain ⟨r', hr', rfl⟩ := List.mem_map.1 hp
      exact (hknown r' hr').2.2.1
    have hclauses : clauses ((r :: rs).map fun r => r.text.toList) =
        (r :: rs).map fun r => r.text.toList := by
      refine clauses_eq_self fun p hp => ?_
      obtain ⟨r', hr', rfl⟩ := List.mem_map.1 hp
      exact ⟨(hknown r' hr').1, (hknown r' hr').2.1⟩
    simp only [hsplit, Except.ok.injEq, exists_eq_left', hclauses, List.forall₂_map_left_iff,
      List.forall₂_same]
    exact forall₂_congr fun r' hr' => (hknown r' hr').2.2.2

theorem canonical_text_is_read_again :
    ∃ f, parse "a==1, b in (x,y), !c" = .ok f ∧ parse f.text = .ok f := by
  have hread : parse "a==1, b in (x,y), !c" =
      .ok ⟨[.equals "a" "1", .oneOf "b" ["x", "y"], .absent "c"]⟩ := by decide +kernel
  refine ⟨_, hread, (parse_text_iff hread).2 ?_⟩
  intro r hr
  simp only [List.mem_cons, List.not_mem_nil, or_false] at hr
  rcases hr with rfl | rfl | rfl
  · exact ⟨by simp, by simp, by decide⟩
  · trivial
  · trivial

/-- The value keeps the third sign, and the text has one sign less. -/
theorem third_sign_is_lost :
    parse "a===b" = .ok ⟨[.equals "a" "=b"]⟩ ∧
      parse (Selector.text ⟨[.equals "a" "=b"]⟩) = .ok ⟨[.equals "a" "b"]⟩ := by
  decide +kernel

end Selector

end ResourceSync
