import ResourceSync.Proofs.Rereading

/-! The documented syntax of selectors and its meaning: each way of writing a selector in it is read
as that selector. -/
namespace ResourceSync

open Text

namespace Text
variable {c : Char} {s s' w : List Char}

/-- ASCII letters and digits, and the signs that stand in names with them. -/
def isPlain (c : Char) : Bool :=
  ('A' ≤ c && c ≤ 'Z') || ('a' ≤ c && c ≤ 'z') || ('0' ≤ c && c ≤ '9') ||
    c == '-' || c == '_' || c == '.' || c == '/'

def Plain (w : List Char) : Prop := ∀ c ∈ w, isPlain c = true

/-- A word with blanks around it. -/
def Padded (w s : List Char) : Prop := ∃ l r, Blanks l ∧ Blanks r ∧ s = l ++ w ++ r

/-- Nothing that has a meaning in a selector. -/
def Mild (s : List Char) : Prop := ∀ c ∈ s, isBlank c = true ∨ isPlain c = true

theorem isBlank_of_isPlain (h : isPlain c = true) : isBlank c = false := by
  -- all of them are printable
  have hrange : 33 ≤ c.toNat ∧ c.toNat ≤ 126 := by
    have hle {a b : Char} (hab : a ≤ b) : a.toNat ≤ b.toNat := UInt32.le_iff_toNat_le.1 hab
    simp only [isPlain, Bool.or_eq_true, Bool.and_eq_true, decide_eq_true_eq, beq_iff_eq] at h
    rcases h with ((((((h | h) | h) | rfl) | rfl) | rfl) | rfl)
    · exact ⟨le_trans (by decide) (hle h.1), le_trans (hle h.2) (by decide)⟩
    · exact ⟨le_trans (by decide) (hle h.1), le_trans (hle h.2) (by decide)⟩
    · exact ⟨le_trans (by decide) (hle h.1), le_trans (hle h.2) (by decide)⟩
    all_goals decide
  simp only [isBlank, Bool.or_eq_false_iff, Bool.and_eq_false_iff, decide_eq_false_iff_not,
    beq_eq_false_iff_ne]
  omega

theorem plain_of_all (h : w.all isPlain = true) : Plain w := List.all_eq_true.1 h

theorem Plain.unbroken (h : Plain w) : Unbroken w := fun c hc => isBlank_of_isPlain (h c hc)

theorem Padded.refl (w : List Char) : Padded w w := ⟨[], [], blanks_nil, blanks_nil, by simp⟩

theorem Padded.trim_eq (h : Padded w s) (hw : Plain w) : trim s = w := by
  obtain ⟨l, r, hl, hr, rfl⟩ := h
  exact trim_padded hl hr hw.unbroken.bare

theorem Padded.mild (h : Padded w s) (hw : Plain w) : Mild s := by
  obtain ⟨l, r, hl, hr, rfl⟩ := h
  intro c hc
  simp only [List.mem_append] at hc
  rcases hc with (hc | hc) | hc
  · exact Or.inl (hl c hc)
  · exact Or.inr (hw c hc)
  · exact Or.inl (hr c hc)

theorem Mild.not_mem (h : Mild s) (hb : isBlank c = false) (hp : isPlain c = false) : c ∉ s := by
  intro hc
  rcases h c hc with hblank | hplain
  · rw [hb] at hblank
    cases hblank
  · rw [hp] at hplain
    cases hplain

theorem Mild.mono (h : Mild s) (hsub : s' ⊆ s) : Mild s' := fun c hc => h c (hsub hc)

theorem Mild.dropWhile (h : Mild s) : Mild (s.dropWhile isBlank) :=
  h.mono (List.dropWhile_suffix isBlank).subset

theorem Mild.dropEndWhile (h : Mild s) : Mild (dropEndWhile isBlank s) :=
  h.mono (dropEndWhile_subset s)

end Text

namespace Requirement
variable {r : Requirement}

/-- The keys and values for which the syntax is documented. -/
def Plain : Requirement → Prop
  | equals key value | notEquals key value =>
    key ≠ "" ∧ Text.Plain key.toList ∧ Text.Plain value.toList
  | oneOf key members | noneOf key members =>
    key ≠ "" ∧ Text.Plain key.toList ∧ members ≠ [] ∧
      ∀ m ∈ members, m ≠ "" ∧ Text.Plain m.toList
  | present key | absent key => key ≠ "" ∧ Text.Plain key.toList

/-- What a requirement is documented to demand. -/
def Holds (labels : Labels) : Requirement → Prop
  | equals key value => labels.get? key = some value
  | notEquals key value =>
    labels.get? key = none ∨ ∃ other, labels.get? key = some other ∧ other ≠ value
  | oneOf key members => ∃ value ∈ members, labels.get? key = some value
  | noneOf key members =>
    labels.get? key = none ∨ ∃ value, labels.get? key = some value ∧ value ∉ members
  | present key => ∃ value, labels.get? key = some value
  | absent key => labels.get? key = none

theorem accepts_iff_holds (r : Requirement) (labels : Labels) :
    r.accepts labels = true ↔ r.Holds labels := by
  cases r with
  | equals key value => simp [accepts, Holds]
  | notEquals key value => cases h : labels.get? key <;> simp [accepts, Holds, h]
  | oneOf key members => cases h : labels.get? key <;> simp [accepts, Holds, h]
  | noneOf key members => cases h : labels.get? key <;> simp [accepts, Holds, h]
  | present key => simp [accepts, Holds, SortedMap.contains, Option.isSome_iff_exists]
  | absent key => simp [accepts, Holds, SortedMap.contains]

/-- The ways of writing a set with its key and operator. -/
inductive SpeltSet (key : String) (operator : List Char) (ms : List String) : List Char → Prop
  | mk {before gap between behind : List Char} {parts : List (List Char)} (hbefore : Blanks before)
      (hgap : Blanks gap) (apart : gap ≠ []) (hbetween : Blanks between) (hbehind : Blanks behind)
      (hparts : List.Forall₂ (fun m part => Padded m.toList part) ms parts) :
      SpeltSet key operator ms
        (before ++ (key.toList ++ gap ++ operator ++ between ++
          '(' :: [','].intercalate parts ++ [')']) ++ behind)

/-- The ways of writing a requirement. -/
inductive Spelt : Requirement → List Char → Prop
  | equals {k v key value} (hkey : Padded k.toList key) (hvalue : Padded v.toList value) :
      Spelt (.equals k v) (key ++ ['='] ++ value)
  | doubleEquals {k v key value} (hkey : Padded k.toList key) (hvalue : Padded v.toList value) :
      Spelt (.equals k v) (key ++ ['=', '='] ++ value)
  | notEquals {k v key value} (hkey : Padded k.toList key) (hvalue : Padded v.toList value) :
      Spelt (.notEquals k v) (key ++ ['!', '='] ++ value)
  | oneOf {k ms s} (hset : SpeltSet k ['i', 'n'] ms s) : Spelt (.oneOf k ms) s
  | noneOf {k ms s} (hset : SpeltSet k ['n', 'o', 't', 'i', 'n'] ms s) : Spelt (.noneOf k ms) s
  | present {k key} (hkey : Padded k.toList key) : Spelt (.present k) key
  | absent {k key before} (hbefore : Blanks before) (hkey : Padded k.toList key) :
      Spelt (.absent k) (before ++ ['!'] ++ key)

end Requirement

namespace Selector
variable {d : Nat} {key value s operator : List Char} {parts : List (List Char)} {k : String}
  {ms : List String} {r : Requirement} {rs : List Requirement}

/-- The ways of writing requirements between commas, with blank ones among them. -/
inductive SpeltParts : List Requirement → List (List Char) → Prop
  | nil : SpeltParts [] []
  | blank {rs parts part} (hpart : Blanks part) (hparts : SpeltParts rs parts) :
      SpeltParts rs (part :: parts)
  | cons {r rs part parts} (hpart : r.Spelt part) (hparts : SpeltParts rs parts) :
      SpeltParts (r :: rs) (part :: parts)

/-- The ways of writing a selector. -/
def Spelt (f : Selector) (t : String) : Prop :=
  ∃ parts, SpeltParts f.requirements parts ∧ t.toList = [','].intercalate parts

theorem flat_of_mild (h : Mild s) : Flat s := by
  intro c hc
  refine ⟨?_, ?_, ?_⟩
  all_goals
    rintro rfl
    exact h.not_mem (by decide) (by decide) hc

theorem validKey_of_plain (hne : k ≠ "") (hk : Plain k.toList) : ValidKey k.toList :=
  ⟨by simpa using hne, hk.unbroken⟩

section comparison
variable (hkey : Mild key) (hvalue : Mild value) (valid : ValidKey (trim key))
include hkey valid

theorem head?_ne_mark (s : List Char) : (key ++ s).head? ≠ some '!' := by
  have hne : key ≠ [] := by
    rintro rfl
    exact valid.1 rfl
  rw [List.head?_append_of_ne_nil _ hne]
  exact fun hhead => hkey.not_mem (by decide) (by decide) (List.mem_of_mem_head? hhead)

theorem reads_notEquals (value : List Char) : Reads (key ++ ['!', '='] ++ value)
    (.notEquals (String.ofList (trim key)) (String.ofList (trim value))) := by
  have hk : '=' ∉ key := hkey.not_mem (by decide) (by decide)
  refine .notEquals ?_ (by simp) ?_ valid
  · rw [List.append_assoc]
    exact head?_ne_mark hkey valid _
  · intro hin
    have hmem := hin.subset (show '=' ∈ ['!', '='] by simp)
    simp [hk] at hmem

include hvalue

theorem reads_equals : Reads (key ++ ['='] ++ value)
    (.equals (String.ofList (trim key)) (String.ofList (trim value))) := by
  have hk : '=' ∉ key := hkey.not_mem (by decide) (by decide)
  have hv : '=' ∉ value := hvalue.not_mem (by decide) (by decide)
  have hk' : '!' ∉ key := hkey.not_mem (by decide) (by decide)
  have hv' : '!' ∉ value := hvalue.not_mem (by decide) (by decide)
  refine .equals ?_ ?_ ?_ (by simp) hk valid
  · rw [List.append_assoc]
    exact head?_ne_mark hkey valid _
  · intro hin
    have hmem := hin.subset (List.mem_cons_self (a := '!'))
    simp [hk', hv'] at hmem
  · intro hin
    -- the sign would stand twice in the text
    have hcount := hin.sublist.count_le '='
    simp [List.count_eq_zero_of_not_mem hk, List.count_eq_zero_of_not_mem hv] at hcount

theorem reads_doubleEquals : Reads (key ++ ['=', '='] ++ value)
    (.equals (String.ofList (trim key)) (String.ofList (trim value))) := by
  have hk : '=' ∉ key := hkey.not_mem (by decide) (by decide)
  have hk' : '!' ∉ key := hkey.not_mem (by decide) (by decide)
  have hv' : '!' ∉ value := hvalue.not_mem (by decide) (by decide)
  refine .doubleEquals ?_ ?_ (by simp) ?_ valid
  · rw [List.append_assoc]
    exact head?_ne_mark hkey valid _
  · intro hin
    have hmem := hin.subset (List.mem_cons_self (a := '!'))
    simp [hk', hv'] at hmem
  · intro hin
    have hcount := hin.sublist.count_le '='
    simp [List.count_eq_zero_of_not_mem hk] at hcount

end comparison

/-- The parts of a set are its members again. -/
theorem clauses_padded (hms : ∀ m ∈ ms, m ≠ "" ∧ Plain m.toList)
    (hparts : List.Forall₂ (fun m part => Padded m.toList part) ms parts) :
    clauses parts = ms.map String.toList := by
  induction hparts with
  | nil => rfl
  | @cons m part ms parts hpart _ ih =>
    obtain ⟨hne, hm⟩ := hms m List.mem_cons_self
    have htrim := hpart.trim_eq hm
    rw [clauses_cons_of_ne (by rw [htrim]; simpa using hne), htrim,
      ih fun m' hm' => hms m' (List.mem_cons_of_mem m hm')]
    rfl

theorem mild_of_forall₂ (hms : ∀ m ∈ ms, m ≠ "" ∧ Plain m.toList)
    (hparts : List.Forall₂ (fun m part => Padded m.toList part) ms parts) :
    ∀ p ∈ parts, Mild p := by
  induction hparts with
  | nil => simp
  | @cons m part ms parts hpart _ ih =>
    refine List.forall_mem_cons.2 ⟨hpart.mild (hms m List.mem_cons_self).2, ?_⟩
    exact ih fun m' hm' => hms m' (List.mem_cons_of_mem m hm')

section set
variable {before gap between : List Char} (hk : Plain k.toList) (hop : Plain operator)
  (hms : ∀ m ∈ ms, m ≠ "" ∧ Plain m.toList)
  (hgap : Blanks gap) (hbetween : Blanks between)
  (hparts : List.Forall₂ (fun m part => Padded m.toList part) ms parts)

include hk hop hgap hbetween in
theorem mild_head : Mild (k.toList ++ gap ++ operator ++ between) := by
  intro c hc
  simp only [List.mem_append] at hc
  rcases hc with ((hc | hc) | hc) | hc
  · exact Or.inr (hk c hc)
  · exact Or.inl (hgap c hc)
  · exact Or.inr (hop c hc)
  · exact Or.inl (hbetween c hc)

include hms hparts in
theorem not_mem_inside {c : Char} (hc : c ≠ ',') (hb : isBlank c = false)
    (hp : isPlain c = false) : c ∉ [','].intercalate parts := by
  intro hmem
  rcases mem_intercalate hmem with rfl | ⟨p, hpart, hmem⟩
  · exact hc rfl
  · exact (mild_of_forall₂ hms hparts p hpart).not_mem hb hp hmem

end set

theorem scan_speltSet (hset : Requirement.SpeltSet k operator ms s) (hk : Plain k.toList)
    (hop : Plain operator) (hms : ∀ m ∈ ms, m ≠ "" ∧ Plain m.toList) : scan 0 s = some 0 := by
  obtain @⟨before, gap, between, behind, parts, hbefore, hgap, apart, hbetween, hbehind, hparts⟩ :=
    hset
  have hhead := flat_of_mild (mild_head hk hop hgap hbetween)
  have hinside : scan 1 ([','].intercalate parts) = some 1 := by
    refine scan_inside (fun c hc => ⟨?_, ?_⟩) 0
    all_goals
      rintro rfl
      exact not_mem_inside hms hparts (by decide) (by decide) (by decide) hc
  have hsplit : before ++ (k.toList ++ gap ++ operator ++ between ++
        '(' :: [','].intercalate parts ++ [')']) ++ behind =
      (before ++ (k.toList ++ gap ++ operator ++ between)) ++
        '(' :: ([','].intercalate parts ++ ')' :: behind) := by simp
  rw [hsplit, scan_append, scan_flat ((flat_of_blanks hbefore).append hhead), Option.bind_some,
    scan_cons]
  change scan 1 _ = _
  rw [scan_append, hinside, Option.bind_some, scan_cons]
  exact scan_flat (flat_of_blanks hbehind) 0

theorem setForm_of_speltSet (hset : Requirement.SpeltSet k operator ms s) (hne : k ≠ "")
    (hk : Plain k.toList) (hop : ValidKey operator) (hop' : Plain operator) (hsome : ms ≠ [])
    (hms : ∀ m ∈ ms, m ≠ "" ∧ Plain m.toList) :
    ∃ head inside, SetForm (trim s) head k.toList operator inside [] ∧ setMembers inside = ms := by
  obtain @⟨before, gap, between, behind, parts, hbefore, hgap, apart, hbetween, hbehind, hparts⟩ :=
    hset
  have hvalid := validKey_of_plain hne hk
  have hhead := mild_head hk hop' hgap hbetween
  have hclose : Bare [')'] := (unbroken_of_any (by decide)).bare
  have hbare := hvalid.2.bare.around hclose hvalid.1 (by simp)
    (gap ++ operator ++ between ++ '(' :: [','].intercalate parts)
  have htrim := trim_padded hbefore hbehind hbare
  have hmembers : members ([','].intercalate parts) = ms.map String.toList := by
    rw [members_intercalate, clauses_padded hms hparts]
    · rintro rfl
      exact hsome (List.forall₂_nil_right_iff.1 hparts)
    · exact fun p hp => (mild_of_forall₂ hms hparts p hp).not_mem (by decide) (by decide)
  have hsign : '=' ∉ [','].intercalate parts :=
    not_mem_inside hms hparts (by decide) (by decide) (by decide)
  have hwords := words_pair blanks_nil hvalid.2 hvalid.1 hgap apart hop.2 hop.1 hbetween
  simp only [List.append_assoc] at htrim ⊢
  refine ⟨k.toList ++ gap ++ operator ++ between, [','].intercalate parts, ?_, ?_⟩
  · rw [htrim]
    constructor
    · rw [List.head?_append_of_ne_nil _ hvalid.1]
      intro hmark
      have hc := hk _ (List.mem_of_mem_head? hmark)
      revert hc
      decide
    · have hequal : '=' ∉ k.toList ++ gap ++ operator ++ between :=
        hhead.not_mem (by decide) (by decide)
      simp only [List.mem_append, not_or] at hequal
      simp [hequal, hsign]
    · simp
    · exact hhead.not_mem (by decide) (by decide)
    · simp
    · exact blanks_nil
    · rw [hmembers]
      simpa using hsome
    · simpa using hwords
  · rw [setMembers_eq, hmembers, List.map_map]
    conv_rhs => rw [← List.map_id ms]
    exact List.map_congr_left fun m _ => String.ofList_toList

/-- Blanks around key and value do no harm to a comparison. -/
theorem of_comparison {sign : List Char} {v : String} {f : String → String → Requirement}
    (hreads : ∀ {key value : List Char}, Mild key → Mild value → ValidKey (trim key) →
      Reads (key ++ sign ++ value) (f (String.ofList (trim key)) (String.ofList (trim value))))
    (hbare : Bare sign) (hsign : sign ≠ []) (hflat : Flat sign) (hkey : Padded k.toList key)
    (hvalue : Padded v.toList value) (hplain : k ≠ "" ∧ Plain k.toList ∧ Plain v.toList) :
    scan 0 (key ++ sign ++ value) = some 0 ∧ Reads (trim (key ++ sign ++ value)) (f k v) := by
  obtain ⟨hne, hk, hv⟩ := hplain
  have hkeyed := hkey.mild hk
  have hvalued := hvalue.mild hv
  refine ⟨scan_flat (((flat_of_mild hkeyed).append hflat).append (flat_of_mild hvalued)) 0, ?_⟩
  have hvalid : ValidKey (trim (key.dropWhile isBlank)) := by
    rw [trim_dropWhile, hkey.trim_eq hk]
    exact validKey_of_plain hne hk
  have htrimmed := hreads hkeyed.dropWhile hvalued.dropEndWhile hvalid
  rw [trim_dropWhile, trim_dropEndWhile, hkey.trim_eq hk, hvalue.trim_eq hv, String.ofList_toList,
    String.ofList_toList] at htrimmed
  rwa [trim_around hbare hsign]

/-- Each way of writing a requirement is one part, which is read as that requirement. -/
theorem of_spelt (h : r.Spelt s) (hr : r.Plain) : scan 0 s = some 0 ∧ Reads (trim s) r := by
  have hflat : Flat ['='] ∧ Flat ['=', '='] ∧ Flat ['!', '='] ∧ Flat ['!'] := by
    simp [Flat]
  obtain ⟨hequal, hdouble, hunequal, hmark⟩ := hflat
  cases h with
  | equals hkey hvalue =>
    exact of_comparison reads_equals (unbroken_of_any (by decide)).bare (by simp) hequal hkey
      hvalue hr
  | doubleEquals hkey hvalue =>
    exact of_comparison reads_doubleEquals (unbroken_of_any (by decide)).bare (by simp) hdouble hkey
      hvalue hr
  | notEquals hkey hvalue =>
    exact of_comparison (fun hkey _ hvalid => reads_notEquals hkey hvalid _)
      (unbroken_of_any (by decide)).bare (by simp) hunequal hkey hvalue hr
  | @oneOf k ms s hset =>
    obtain ⟨hne, hk, hsome, hms⟩ := hr
    have hop : Plain ['i', 'n'] := plain_of_all (by decide)
    have hop' : ValidKey ['i', 'n'] := ⟨by simp, hop.unbroken⟩
    refine ⟨scan_speltSet hset hk hop hms, ?_⟩
    obtain ⟨head, inside, hform, hmembers⟩ := setForm_of_speltSet hset hne hk hop' hop hsome hms
    have hreads := Reads.oneOf hform
    rwa [hmembers, String.ofList_toList] at hreads
  | @noneOf k ms s hset =>
    obtain ⟨hne, hk, hsome, hms⟩ := hr
    have hop : Plain ['n', 'o', 't', 'i', 'n'] := plain_of_all (by decide)
    have hop' : ValidKey ['n', 'o', 't', 'i', 'n'] := ⟨by simp, hop.unbroken⟩
    refine ⟨scan_speltSet hset hk hop hms, ?_⟩
    obtain ⟨head, inside, hform, hmembers⟩ := setForm_of_speltSet hset hne hk hop' hop hsome hms
    have hreads := Reads.noneOf hform
    rwa [hmembers, String.ofList_toList] at hreads
  | @present k key hkey =>
    obtain ⟨hne, hk⟩ := hr
    refine ⟨scan_flat (flat_of_mild (hkey.mild hk)) 0, ?_⟩
    have hmild : Mild k.toList := fun c hc => Or.inr (hk c hc)
    have hno {c : Char} (hb : isBlank c = false) (hp : isPlain c = false) : c ∉ k.toList :=
      hmild.not_mem hb hp
    have hmark : k.toList.head? ≠ some '!' := fun hmark =>
      hno (by decide) (by decide) (List.mem_of_mem_head? hmark)
    have hreads : Reads k.toList (.present (String.ofList k.toList)) :=
      .present hmark (hno (by decide) (by decide)) (hno (by decide) (by decide))
        (validKey_of_plain hne hk)
    rw [String.ofList_toList] at hreads
    rwa [hkey.trim_eq hk]
  | @absent k key before hbefore hkey =>
    obtain ⟨hne, hk⟩ := hr
    have hkeyed := hkey.mild hk
    refine ⟨scan_flat (((flat_of_blanks hbefore).append hmark).append (flat_of_mild hkeyed)) 0, ?_⟩
    have hvalid : ValidKey (trim (dropEndWhile isBlank key)) := by
      rw [trim_dropEndWhile, hkey.trim_eq hk]
      exact validKey_of_plain hne hk
    have hreads := Reads.absent rfl hvalid
    rw [trim_around (unbroken_of_any (by decide)).bare (by simp),
      List.dropWhile_eq_nil_iff.2 hbefore]
    rwa [trim_dropEndWhile, hkey.trim_eq hk, String.ofList_toList] at hreads

theorem Reads.ne_nil (h : Reads s r) : s ≠ [] := by
  rintro rfl
  cases h with
  | absent hraw => cases hraw
  | notEquals _ hraw => simp at hraw
  | doubleEquals _ _ hraw => simp at hraw
  | equals _ _ _ hraw => simp at hraw
  | oneOf form => simpa using form.parted
  | noneOf form => simpa using form.parted
  | present _ _ _ hvalid => exact hvalid.1 rfl

/-- Each way of writing a selector is read as that selector. -/
theorem reads_of_speltParts (h : SpeltParts rs parts) (hrs : ∀ r ∈ rs, r.Plain) :
    (∀ p ∈ parts, scan 0 p = some 0) ∧ List.Forall₂ Reads (clauses parts) rs := by
  induction h with
  | nil => exact ⟨by simp, .nil⟩
  | @blank rs parts part hpart _ ih =>
    obtain ⟨hscan, hreads⟩ := ih hrs
    rw [clauses_cons_of_blanks hpart]
    exact ⟨List.forall_mem_cons.2 ⟨scan_flat (flat_of_blanks hpart) 0, hscan⟩, hreads⟩
  | @cons r rs part parts hpart _ ih =>
    obtain ⟨hscan, hreads⟩ := ih fun r' hr' => hrs r' (List.mem_cons_of_mem r hr')
    obtain ⟨hscan', hreads'⟩ := of_spelt hpart (hrs r List.mem_cons_self)
    rw [clauses_cons_of_ne hreads'.ne_nil]
    exact ⟨List.forall_mem_cons.2 ⟨hscan', hscan⟩, .cons hreads' hreads⟩

theorem parse_eq_ok_of_spelt {f : Selector} {t : String} (h : f.Spelt t)
    (hplain : ∀ r ∈ f.requirements, r.Plain) : parse t = .ok f := by
  obtain ⟨parts, hparts, ht⟩ := h
  obtain ⟨hscan, hreads⟩ := reads_of_speltParts hparts hplain
  rw [parse_eq_ok_iff, parseRequirements_eq_ok_iff, ht]
  cases parts with
  | nil =>
    refine ⟨[[]], by simp [splitParts], ?_⟩
    rwa [clauses_cons_of_blanks blanks_nil]
  | cons part parts => exact ⟨part :: parts, splitParts_intercalate (by simp) hscan, hreads⟩

/-- Each way of writing a selector in the documented syntax is read as that selector, which accepts
what it is documented to accept. -/
theorem parse_of_spelt {f : Selector} {t : String} (h : f.Spelt t)
    (hplain : ∀ r ∈ f.requirements, r.Plain) :
    parse t = .ok f ∧
      ∀ labels, f.accepts labels = true ↔ ∀ r ∈ f.requirements, r.Holds labels := by
  refine ⟨parse_eq_ok_of_spelt h hplain, fun labels => ?_⟩
  simp only [Selector.accepts, List.all_eq_true, Requirement.accepts_iff_holds]

/-- Keys and members may be called like the operators. -/
theorem names_of_operators_are_read :
    parse " notin in( in ,a/1),,! in " = .ok ⟨[.oneOf "notin" ["in", "a/1"], .absent "in"]⟩ ∧
      ∀ labels, Selector.accepts ⟨[.oneOf "notin" ["in", "a/1"], .absent "in"]⟩ labels = true ↔
        ∀ r ∈ [Requirement.oneOf "notin" ["in", "a/1"], .absent "in"], r.Holds labels := by
  have hblank : Blanks [' '] := blanks_singleton rfl
  have hin : Padded "in".toList " in ".toList := ⟨[' '], [' '], hblank, hblank, rfl⟩
  have hset : Requirement.SpeltSet "notin" ['i', 'n'] ["in", "a/1"] " notin in( in ,a/1)".toList :=
    .mk hblank hblank (by simp) blanks_nil blanks_nil (.cons hin (.cons (.refl _) .nil))
  have habsent : Requirement.Spelt (.absent "in") "! in ".toList := .absent blanks_nil hin
  have hparts := SpeltParts.cons (.oneOf hset) (.blank blanks_nil (.cons habsent .nil))
  refine parse_of_spelt ⟨_, hparts, rfl⟩ ?_
  intro r hr
  simp only [List.mem_cons, List.not_mem_nil, or_false] at hr
  rcases hr with rfl | rfl
  · refine ⟨by decide, plain_of_all (by decide), by simp, ?_⟩
    rw [List.forall_mem_cons, List.forall_mem_singleton]
    exact ⟨⟨by decide, plain_of_all (by decide)⟩, by decide, plain_of_all (by decide)⟩
  · exact ⟨by decide, plain_of_all (by decide)⟩

theorem speltSet_setText (k : String) (operator : List Char) (ms : List String) :
    Requirement.SpeltSet k operator ms (setText k.toList operator (ms.map String.toList)) := by
  have hblank : Blanks [' '] := blanks_singleton rfl
  have hparts : List.Forall₂ (fun m part => Padded m.toList part) ms (ms.map String.toList) :=
    List.forall₂_map_right_iff.2 (List.forall₂_same.2 fun m _ => .refl m.toList)
  have hset : Requirement.SpeltSet k operator ms _ :=
    .mk blanks_nil hblank (by simp) hblank blanks_nil hparts
  simpa [setText] using hset

/-- The text of a requirement is one of the ways of writing it. -/
theorem spelt_text_requirement (r : Requirement) : r.Spelt r.text.toList := by
  cases r with
  | equals k v =>
    rw [Requirement.toList_text_equals]
    simpa using Requirement.Spelt.equals (.refl k.toList) (.refl v.toList)
  | notEquals k v =>
    rw [Requirement.toList_text_notEquals]
    simpa using Requirement.Spelt.notEquals (.refl k.toList) (.refl v.toList)
  | oneOf k ms =>
    rw [Requirement.toList_text_oneOf]
    exact .oneOf (speltSet_setText k _ ms)
  | noneOf k ms =>
    rw [Requirement.toList_text_noneOf]
    exact .noneOf (speltSet_setText k _ ms)
  | present k => exact .present (.refl k.toList)
  | absent k =>
    rw [Requirement.toList_text_absent]
    simpa using Requirement.Spelt.absent blanks_nil (.refl k.toList)

theorem spelt_text (f : Selector) : f.Spelt f.text := by
  refine ⟨f.requirements.map fun r => r.text.toList, ?_, toList_text f⟩
  induction f.requirements with
  | nil => exact .nil
  | cons r rs ih => exact .cons (spelt_text_requirement r) ih

/-- A selector of plain names is read again from its own text. -/
theorem parse_text_of_plain {f : Selector} (hplain : ∀ r ∈ f.requirements, r.Plain) :
    parse f.text = .ok f :=
  parse_eq_ok_of_spelt (spelt_text f) hplain

end Selector

end ResourceSync
