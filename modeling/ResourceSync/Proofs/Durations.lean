import ResourceSync.Duration.Parser

/-! The texts that denote a duration in rule notation, and the durations that they denote. -/
namespace ResourceSync

namespace TimeUnit
variable {u : TimeUnit} {s : List Char}

theorem ofSymbol?_eq_some_iff : ofSymbol? s = some u ↔ u.symbol = s := by
  constructor
  · intro h
    simpa using List.find?_some h
  · rintro rfl
    cases u <;> rfl

theorem exists_head (u : TimeUnit) : ∃ c r, u.symbol = c :: r ∧ Duration.isDigit c = false := by
  cases u <;> exact ⟨_, _, rfl, rfl⟩

theorem all_symbol (u : TimeUnit) : (u.symbol.all fun c => !Duration.isDigit c) = true := by
  cases u <;> rfl

end TimeUnit

namespace Duration
variable {input s : String} {r : List Char} {d sum : Duration}

/-- A number begins with a digit. -/
theorem exists_digit {digits : List Char} (hne : digits ≠ []) (hnumber : digits.all isDigit = true)
    (r : List Char) : ∃ c l, digits ++ r = c :: l ∧ isDigit c = true := by
  cases digits with
  | nil => exact absurd rfl hne
  | cons c l => exact ⟨c, l ++ r, rfl, List.all_eq_true.1 hnumber c List.mem_cons_self⟩

/-- A number and its unit, with the number in either of its words. -/
structure Part where
  digits : List Char
  unit : TimeUnit
  ne_nil : digits ≠ []
  isNumber : digits.all isDigit = true
  number_lt : digitsValue digits < partLimit
  millis_lt : digitsValue digits * unit.millis < partLimit

namespace Part

def text (p : Part) : List Char := p.digits ++ p.unit.symbol

def millis (p : Part) : Nat := digitsValue p.digits * p.unit.millis

theorem exists_head (p : Part) : ∃ c r, p.text = c :: r ∧ isDigit c = true :=
  exists_digit p.ne_nil p.isNumber p.unit.symbol

end Part

variable {p : Part} {ps : List Part}

/-- The parts of a duration, one after another. -/
def spelling (ps : List Part) : List Char := ps.flatMap Part.text

def millisOf : List Part → Nat
  | [] => 0
  | p :: ps => p.millis + millisOf ps

/-- Blanks aside, a text is made of parts that come to a duration. -/
def Denotes (s : String) (d : Duration) : Prop :=
  ∃ ps, ps ≠ [] ∧ Text.trim s.toList = spelling ps ∧ d = ofMillis (millisOf ps)

/-- A text is a duration in rule notation. -/
def IsDuration (s : String) : Prop := ∃ d, Denotes s d

/-- The sum of the parts of a text stays in range, as far as it is made. -/
def Fits (s : String) : Prop := ∀ message, parse s ≠ .error (.brokeOff message)

/-- No unit goes on behind a text. -/
def AtPart (r : List Char) : Prop := ∀ c ∈ r.head?, isDigit c = true

theorem spelling_cons (p : Part) (ps : List Part) :
    spelling (p :: ps) = p.text ++ spelling ps := List.flatMap_cons

theorem spelling_ne_nil (h : ps ≠ []) : spelling ps ≠ [] := by
  cases ps with
  | nil => exact absurd rfl h
  | cons p ps =>
    obtain ⟨c, r, htext, -⟩ := p.exists_head
    rw [spelling_cons, htext]
    exact List.cons_ne_nil _ _

/-- The number of a part ends where its unit begins. -/
theorem span_digits {digits : List Char} (hnumber : digits.all isDigit = true) (u : TimeUnit)
    (r : List Char) : (digits ++ u.symbol ++ r).takeWhile isDigit = digits ∧
      (digits ++ u.symbol ++ r).dropWhile isDigit = u.symbol ++ r := by
  obtain ⟨c, symbol, hsymbol, hc⟩ := u.exists_head
  rw [List.all_eq_true] at hnumber
  rw [List.append_assoc, hsymbol, List.cons_append]
  constructor
  · rw [List.takeWhile_append_of_pos hnumber, List.takeWhile_cons_of_neg (by simp [hc]),
      List.append_nil]
  · rw [List.dropWhile_append_of_pos hnumber, List.dropWhile_cons_of_neg (by simp [hc])]

/-- The unit of a part ends where the next part begins. -/
theorem span_symbol (u : TimeUnit) (hr : AtPart r) :
    (u.symbol ++ r).takeWhile (fun c => !isDigit c) = u.symbol ∧
      (u.symbol ++ r).dropWhile (fun c => !isDigit c) = r := by
  have hplain := List.all_eq_true.1 u.all_symbol
  rw [List.takeWhile_append_of_pos hplain, List.dropWhile_append_of_pos hplain]
  cases r with
  | nil => simp
  | cons c r => simp [hr c rfl]

theorem atPart_dropWhile (l : List Char) : AtPart (l.dropWhile fun c => !isDigit c) := by
  intro c hc
  have hhead := List.head?_dropWhile_not (fun c => !isDigit c) l
  rw [Option.mem_def.1 hc] at hhead
  simpa using hhead

/-- A part is read off, whatever other parts follow. -/
theorem nextPart_append (p : Part) (hr : AtPart r) (input : String) :
    nextPart input (p.text ++ r) = .ok (ofMillis p.millis, r) := by
  obtain ⟨hdigits, hrest⟩ := span_digits p.isNumber p.unit r
  obtain ⟨hunit, hend⟩ := span_symbol p.unit hr
  unfold nextPart Part.text
  dsimp only
  rw [hdigits, hrest, hunit, hend, if_neg p.ne_nil, if_neg (Nat.not_le_of_lt p.number_lt),
    TimeUnit.ofSymbol?_eq_some_iff.2 rfl]
  exact if_neg (Nat.not_le_of_lt p.millis_lt)

theorem exists_part_of_nextPart {l : List Char} (h : nextPart input l = .ok (d, r)) :
    ∃ p : Part, l = p.text ++ r ∧ d = ofMillis p.millis ∧ AtPart r := by
  unfold nextPart at h
  dsimp only at h
  split at h
  · cases h
  · next hnone =>
    split at h
    · cases h
    · next hnumber =>
      split at h
      · cases h
      · next unit hunit =>
        split at h
        · cases h
        · next hmillis =>
          cases h
          have hsymbol := TimeUnit.ofSymbol?_eq_some_iff.1 hunit
          refine ⟨⟨l.takeWhile isDigit, unit, hnone, List.all_takeWhile,
            Nat.lt_of_not_le hnumber, Nat.lt_of_not_le hmillis⟩, ?_, rfl, atPart_dropWhile _⟩
          rw [Part.text, hsymbol, List.append_assoc, List.takeWhile_append_dropWhile,
            List.takeWhile_append_dropWhile]

theorem sumParts_nil (input : String) (sum : Duration) : sumParts input sum [] = .ok sum := by
  rw [sumParts]
  rfl

theorem sumParts_append (p : Part) (hr : AtPart r) (input : String) (sum : Duration) :
    sumParts input sum (p.text ++ r) =
      (sum.add (ofMillis p.millis) >>= fun sum => sumParts input sum r) := by
  have hnext := nextPart_append p hr input
  have hne : ¬ (p.text ++ r).isEmpty = true := by
    obtain ⟨c, tail, htext, -⟩ := p.exists_head
    rw [htext]
    exact Bool.false_ne_true
  rw [sumParts, if_neg hne]
  split
  · next h =>
    rw [hnext] at h
    cases h
  · next part rest h =>
    rw [hnext] at h
    cases h
    cases sum.add (ofMillis p.millis) <;> rfl

theorem inRange_of_le {d' : Duration} (h : d.nanoseconds ≤ d'.nanoseconds)
    (hrange : d'.inRange = true) : d.inRange = true := by
  have hlt : d'.wholeSeconds < UInt64.size := of_decide_eq_true hrange
  exact decide_eq_true (Nat.lt_of_le_of_lt (Nat.div_le_div_right h) hlt)

theorem atPart_append (ps : List Part) (hr : AtPart r) : AtPart (spelling ps ++ r) := by
  cases ps with
  | nil => exact hr
  | cons p ps =>
    obtain ⟨c, tail, htext, hc⟩ := p.exists_head
    rw [AtPart, spelling_cons, htext]
    simpa using hc

theorem nanoseconds_ofMillis_cons (p : Part) (ps : List Part) :
    (ofMillis (millisOf (p :: ps))).nanoseconds =
      (ofMillis p.millis).nanoseconds + (ofMillis (millisOf ps)).nanoseconds := by
  simp only [millisOf, ofMillis, Nat.add_mul]

/-- The leading parts of a text add up, or the sum leaves its range. -/
theorem sumParts_spelling (ps : List Part) (hr : AtPart r) (input : String)
    (hsum : sum.inRange = true) :
    let d : Duration := ⟨sum.nanoseconds + (ofMillis (millisOf ps)).nanoseconds⟩
    sumParts input sum (spelling ps ++ r) = if d.inRange then sumParts input d r
      else .error (.brokeOff "overflow when adding durations") := by
  induction ps generalizing sum with
  | nil => exact (if_pos hsum).symm
  | cons p ps ih =>
    dsimp only
    rw [spelling_cons, List.append_assoc, sumParts_append p (atPart_append ps hr),
      nanoseconds_ofMillis_cons, ← Nat.add_assoc, add]
    by_cases hadd : (⟨sum.nanoseconds + (ofMillis p.millis).nanoseconds⟩ : Duration).inRange = true
    · rw [if_pos hadd]
      exact ih hadd
    · -- A sum that has left its range does not come back, whatever parts follow.
      rw [if_neg hadd, if_neg fun hrange => hadd (inRange_of_le (Nat.le_add_right _ _) hrange)]
      rfl

theorem exists_parts_of_sumParts {l : List Char} (h : sumParts input sum l = .ok d) :
    ∃ ps, l = spelling ps := by
  fun_induction sumParts input sum l with
  | case1 sum l hnil => exact ⟨[], List.isEmpty_iff.1 hnil⟩
  | case2 => cases h
  | case3 => cases h
  | case4 sum l _ part rest hnext sum' _ ih =>
    obtain ⟨ps, hps⟩ := ih h
    obtain ⟨p, hp, -, -⟩ := exists_part_of_nextPart hnext
    exact ⟨p :: ps, by rw [hp, hps, spelling_cons]⟩

theorem parse_of_spelling (hps : ps ≠ []) (htrim : Text.trim s.toList = spelling ps) :
    parse s = if (ofMillis (millisOf ps)).inRange then .ok (ofMillis (millisOf ps))
      else .error (.brokeOff "overflow when adding durations") := by
  have hne : ¬ (Text.trim s.toList).isEmpty = true := by
    rw [htrim, List.isEmpty_iff]
    exact spelling_ne_nil hps
  have hzero : zero.inRange = true := by decide
  have hsum := sumParts_spelling ps (r := []) nofun (String.ofList (spelling ps)) hzero
  unfold parse
  dsimp only
  rw [if_neg hne, htrim]
  simpa only [List.append_nil, sumParts_nil, zero, Nat.zero_add] using hsum

/-- A text is read as a duration exactly if it denotes it and the duration is in range. -/
theorem parse_eq_ok_iff : parse s = .ok d ↔ Denotes s d ∧ d.inRange = true := by
  constructor
  · intro h
    have hparse := h
    unfold parse at h
    dsimp only at h
    split at h
    · cases h
    · next hne =>
      obtain ⟨ps, hps⟩ := exists_parts_of_sumParts h
      have hps' : ps ≠ [] := by
        rintro rfl
        exact hne (List.isEmpty_iff.2 hps)
      rw [parse_of_spelling hps' hps] at hparse
      split at hparse
      · next hrange =>
        cases hparse
        exact ⟨⟨ps, hps', hps, rfl⟩, hrange⟩
      · cases hparse
  · rintro ⟨⟨ps, hps, htrim, rfl⟩, hrange⟩
    rw [parse_of_spelling hps htrim, if_pos hrange]

theorem parse_minute : parse "1m" = .ok (.ofSeconds 60) := by
  refine parse_eq_ok_iff.2 ⟨⟨[⟨['1'], .minute, ?_, ?_, ?_, ?_⟩], ?_, ?_, ?_⟩, ?_⟩ <;> decide

/-- Of what fits, durations are read and everything else is refused. -/
theorem parse_settles (h : Fits s) : (parse s).Settles (IsDuration s) (fun d => parse s = .ok d) := by
  cases hparse : parse s with
  | ok d => exact .inl ⟨⟨d, (parse_eq_ok_iff.1 hparse).1⟩, d, rfl, rfl⟩
  | error e =>
    cases e with
    | refused cause =>
      refine .inr ⟨?_, cause, rfl⟩
      rintro ⟨-, ps, hps, htrim, -⟩
      rw [parse_of_spelling hps htrim] at hparse
      split at hparse <;> cases hparse
    | brokeOff message => exact absurd hparse (h message)

theorem parse_eq_ok_iff_of_fits (h : Fits s) : parse s = .ok d ↔ Denotes s d := by
  refine ⟨fun hparse => (parse_eq_ok_iff.1 hparse).1, ?_⟩
  rintro ⟨ps, hps, htrim, rfl⟩
  have hparse := parse_of_spelling hps htrim
  split at hparse
  · exact hparse
  · exact absurd hparse (h _)

theorem fits_of_parse (h : parse s = .ok d) : Fits s := by
  intro message hover
  cases h.symm.trans hover

end Duration

end ResourceSync
