import ResourceSync.Proofs.Windows

/-! The texts that the arithmetic of durations breaks off at: their amounts come to more seconds
than a word can count. All other texts are refused for a cause, or read as a duration that a window
covers; a text has to be long to overrun. -/
namespace ResourceSync

namespace Duration
variable {input s : String} {l r : List Char} {d sum : Duration} {ps : List Part} {n : Nat}

/-- A window lasts as long as a duration, or longer. -/
def Covers (window : String) (d : Duration) : Prop :=
  ∃ a : Amount, window.toList = a.text ∧ d.nanoseconds ≤ (ofMillis a.millis).nanoseconds

/-- A text is refused for a cause, or read as a duration that has a window which covers it. -/
def IsHandled (s : String) : Prop :=
  (∃ cause, parse s = .error (.refused cause)) ∨ ∃ d window, parse s = .ok d ∧
    (d.timeWindow : Checked DurationError String) = .ok window ∧ Covers window d

/-- The leading parts of a text come to more seconds than a word can count, or all of its parts do
once they are rounded up. -/
def Overruns (s : String) : Prop :=
  ∃ ps r, Text.trim s.toList = spelling ps ++ r ∧ AtPart r ∧
    (UInt64.size * 1000 ≤ millisOf ps ∨ r = [] ∧ (UInt64.size - 1) * 1000 < millisOf ps)

/-- A sum breaks off only behind parts that take it out of its range. -/
theorem exists_parts_of_brokeOff {message : String}
    (h : sumParts input sum l = .error (.brokeOff message)) :
    ∃ ps r, l = spelling ps ++ r ∧ AtPart r ∧
      ¬ (⟨sum.nanoseconds + (ofMillis (millisOf ps)).nanoseconds⟩ : Duration).inRange = true := by
  fun_induction sumParts input sum l with
  | case1 => cases h
  | case2 => cases h
  | case3 sum l _ part rest hnext e hadd =>
    obtain ⟨p, rfl, rfl, hrest⟩ := exists_part_of_nextPart hnext
    -- The sum breaks off at this part.
    refine ⟨[p], rest, by simp [spelling], hrest, ?_⟩
    simp only [add] at hadd
    split at hadd
    · cases hadd
    · next hout => simpa [millisOf] using hout
  | case4 sum l _ part rest hnext sum' hadd ih =>
    obtain ⟨p, rfl, rfl, -⟩ := exists_part_of_nextPart hnext
    -- It breaks off later, behind a sum that has this part in it.
    obtain ⟨ps, r, rfl, hr, hout⟩ := ih h
    refine ⟨p :: ps, r, by rw [spelling_cons, List.append_assoc], hr, ?_⟩
    simp only [add] at hadd
    split at hadd
    · cases hadd
      rwa [nanoseconds_ofMillis_cons, ← Nat.add_assoc]
    · cases hadd

theorem not_inRange_iff : ¬ (⟨zero.nanoseconds + (ofMillis n).nanoseconds⟩ : Duration).inRange = true ↔
    UInt64.size * 1000 ≤ n := by
  rw [zero, Nat.zero_add]
  exact (not_congr inRange_ofMillis_iff).trans Nat.not_lt

theorem ne_nil_of_millisOf (h : 0 < millisOf ps) : ps ≠ [] := by
  rintro rfl
  exact absurd h (Nat.lt_irrefl 0)

/-- Reading breaks off exactly if leading parts of the text come to too many seconds. -/
theorem parse_brokeOff_iff : (∃ message, parse s = .error (.brokeOff message)) ↔
    ∃ ps r, Text.trim s.toList = spelling ps ++ r ∧ AtPart r ∧
      UInt64.size * 1000 ≤ millisOf ps := by
  constructor
  · rintro ⟨message, h⟩
    unfold parse at h
    dsimp only at h
    split at h
    · cases h
    · obtain ⟨ps, r, htrim, hr, hout⟩ := exists_parts_of_brokeOff h
      exact ⟨ps, r, htrim, hr, not_inRange_iff.1 hout⟩
  · rintro ⟨ps, r, htrim, hr, hlarge⟩
    have hpos : 0 < millisOf ps := Nat.lt_of_lt_of_le (by decide) hlarge
    have hne : spelling ps ≠ [] := spelling_ne_nil (ne_nil_of_millisOf hpos)
    have hzero : zero.inRange = true := by decide
    have hsum := sumParts_spelling ps hr (String.ofList (spelling ps ++ r)) hzero
    dsimp only at hsum
    rw [if_neg (not_inRange_iff.2 hlarge)] at hsum
    refine ⟨"overflow when adding durations", ?_⟩
    unfold parse
    dsimp only
    rw [htrim, if_neg (by simp [hne])]
    exact hsum

theorem roundedSeconds_ofMillis_lt_iff :
    (ofMillis n).roundedSeconds < UInt64.size ↔ n ≤ (UInt64.size - 1) * 1000 := by
  have hnanos : (ofMillis n).nanoseconds = n * 1000000 := rfl
  unfold roundedSeconds second UInt64.size
  rw [Nat.ceilDiv_eq_add_pred_div, hnanos]
  omega

/-- A text overruns if reading it breaks off, or the window of what is read would have to. -/
theorem overruns_iff : Overruns s ↔ (∃ message, parse s = .error (.brokeOff message)) ∨
    ∃ d, parse s = .ok d ∧ UInt64.size ≤ d.roundedSeconds := by
  constructor
  · rintro ⟨ps, r, htrim, hr, hlarge | ⟨rfl, hlast⟩⟩
    · exact .inl (parse_brokeOff_iff.2 ⟨ps, r, htrim, hr, hlarge⟩)
    · rw [List.append_nil] at htrim
      have hparse := parse_of_spelling (ne_nil_of_millisOf (Nat.zero_lt_of_lt hlast)) htrim
      split at hparse
      · refine .inr ⟨_, hparse, Nat.le_of_not_lt fun hlt => ?_⟩
        exact Nat.not_le_of_lt hlast (roundedSeconds_ofMillis_lt_iff.1 hlt)
      · exact .inl ⟨_, hparse⟩
  · rintro (hbroke | ⟨d, hparse, hlarge⟩)
    · obtain ⟨ps, r, htrim, hr, hlarge⟩ := parse_brokeOff_iff.1 hbroke
      exact ⟨ps, r, htrim, hr, .inl hlarge⟩
    · obtain ⟨⟨ps, -, htrim, rfl⟩, -⟩ := parse_eq_ok_iff.1 hparse
      refine ⟨ps, [], by rw [htrim, List.append_nil], nofun, .inr ⟨rfl, ?_⟩⟩
      refine Nat.lt_of_not_le fun hle => Nat.not_lt_of_le hlarge ?_
      exact roundedSeconds_ofMillis_lt_iff.2 hle

/-- A duration has a window that covers it, unless the seconds of the window have no word. -/
theorem covering_window_iff : (∃ window, (d.timeWindow : Checked DurationError String) = .ok window ∧
    Covers window d) ↔ d.roundedSeconds < UInt64.size := by
  constructor
  · rintro ⟨window, hwindow, -⟩
    by_contra hlarge
    unfold timeWindow at hwindow
    dsimp only at hwindow
    rw [ceilSeconds_eq, if_pos (Nat.le_of_not_lt hlarge)] at hwindow
    cases hwindow
  · intro hlt
    obtain ⟨window, a, hwindow, htext, hfills⟩ := exists_window hlt
    refine ⟨window, hwindow, a, htext, ?_⟩
    rw [hfills.millis_eq, ofMillis_thousands]
    have hsecond : 0 < second := by decide
    calc d.nanoseconds ≤ second * d.roundedSeconds := le_smul_ceilDiv hsecond
      _ ≤ second * d.windowSeconds := Nat.mul_le_mul_left _ (Nat.le_max_right _ _)
      _ = d.windowSeconds * second := Nat.mul_comm _ _

theorem foldl_digits_lt (h : ∀ c ∈ l, isDigit c = true) (n : Nat) :
    l.foldl (fun n c => n * 10 + (c.toNat - '0'.toNat)) n < (n + 1) * 10 ^ l.length := by
  induction l generalizing n with
  | nil => simp
  | cons c l ih =>
    obtain ⟨hc, hl⟩ := List.forall_mem_cons.1 h
    have hdigit : c.toNat - '0'.toNat ≤ 9 := by
      have hc := toNat_of_isDigit hc
      change c.toNat - 48 ≤ 9
      omega
    rw [List.foldl_cons, List.length_cons]
    calc _ < (n * 10 + (c.toNat - '0'.toNat) + 1) * 10 ^ l.length := ih hl _
      _ ≤ (n + 1) * 10 * 10 ^ l.length := Nat.mul_le_mul_right _ (by omega)
      _ = (n + 1) * 10 ^ (l.length + 1) := by rw [Nat.pow_succ', Nat.mul_assoc]

/-- A part comes to few milliseconds for its length: years of nine digits come to the most. -/
theorem Part.millis_mul_le (p : Part) : p.millis * 10 ≤ UInt64.size * p.text.length := by
  have hlength : p.text.length = p.digits.length + p.unit.symbol.length := List.length_append
  have hdigits := List.length_pos_of_ne_nil p.ne_nil
  have hsymbol : 1 ≤ p.unit.symbol.length := by cases p.unit <;> decide
  by_cases hlong : 10 ≤ p.text.length
  · have hmillis : p.millis < 18446744073709551616 := p.millis_lt
    unfold UInt64.size
    omega
  · have hnumber : digitsValue p.digits < (0 + 1) * 10 ^ p.digits.length :=
      foldl_digits_lt (List.all_eq_true.1 p.isNumber) 0
    have hpow : 10 ^ p.digits.length ≤ 10 ^ 8 := Nat.pow_le_pow_right (by decide) (by omega)
    have hunit : p.unit.millis ≤ 31536000000 := by cases p.unit <;> decide
    have hmillis : p.millis ≤ 100000000 * 31536000000 :=
      Nat.mul_le_mul (by omega) hunit
    unfold UInt64.size
    omega

theorem millisOf_mul_le (ps : List Part) : millisOf ps * 10 ≤ UInt64.size * (spelling ps).length := by
  induction ps with
  | nil => simp [millisOf]
  | cons p ps ih =>
    have hp := p.millis_mul_le
    rw [millisOf, spelling_cons, List.length_append, Nat.add_mul, Nat.mul_add]
    omega

/-- Only texts of ten thousand characters can overrun. -/
theorem not_overruns_of_length (h : s.length < 10000) : ¬ Overruns s := by
  rintro ⟨ps, r, htrim, -, hlarge⟩
  have hmillis := millisOf_mul_le ps
  have htext := (Text.trim_isInfix s.toList).length_le
  rw [htrim, List.length_append, String.length_toList] at htext
  unfold UInt64.size at hmillis hlarge
  omega

theorem isHandled_iff_not_overruns : IsHandled s ↔ ¬ Overruns s := by
  rw [overruns_iff, IsHandled]
  cases hparse : parse s with
  | error e =>
    cases e with
    | refused cause => exact iff_of_true (.inl ⟨cause, rfl⟩) (by simp)
    | brokeOff message => exact iff_of_false (by simp) (by simp)
  | ok d =>
    have hwindow := covering_window_iff (d := d)
    simpa using hwindow

/-- A text is refused or read as a duration with a window that covers it, unless it overruns; this
takes ten thousand characters. -/
theorem handled_unless_overrun (s : String) :
    (IsHandled s ↔ ¬ Overruns s) ∧ (s.length < 10000 → IsHandled s) := by
  refine ⟨isHandled_iff_not_overruns, fun h => ?_⟩
  exact isHandled_iff_not_overruns.2 (not_overruns_of_length h)

end Duration

/-- A text, so many times. -/
def Sample.times (n : Nat) (text : String) : String :=
  String.ofList (List.replicate n text.toList).flatten

namespace Duration

theorem length_times (n : Nat) (text : String) :
    (Sample.times n text).length = n * text.length := by
  simp [Sample.times, String.length_toList]

theorem toList_times {text : String} {p : Part} (h : text.toList = p.text) (n : Nat) :
    (Sample.times n text).toList = spelling (List.replicate n p) := by
  rw [Sample.times, String.toList_ofList, h, spelling, List.flatMap_def, List.map_replicate]

theorem millisOf_replicate (n : Nat) (p : Part) :
    millisOf (List.replicate n p) = n * p.millis := by
  induction n with
  | zero => simp [millisOf]
  | succ n ih => rw [List.replicate_succ, millisOf, ih, Nat.succ_mul, Nat.add_comm]

theorem many_years_are_handled : (Sample.times 999 "584942417y").length < 10000 ∧
    IsHandled (Sample.times 999 "584942417y") := by
  have hlength : (Sample.times 999 "584942417y").length < 10000 := by
    rw [length_times]
    decide
  exact ⟨hlength, (handled_unless_overrun _).2 hlength⟩

/-- Too many years break off as they are added up. A sum that just stays in range has no window. -/
theorem too_many_years_are_not_handled :
    ¬ IsHandled (Sample.times 1001 "584942417y") ∧
      ¬ IsHandled ("1ms" ++ Sample.times 1000 "18446744073709551615ms") := by
  simp only [isHandled_iff_not_overruns, not_not]
  constructor
  · let years : Part := ⟨"584942417".toList, .year, by decide, by decide, by decide, by decide⟩
    refine ⟨List.replicate 1001 years, [], ?_, nofun, .inl ?_⟩
    · rw [toList_times (p := years) rfl, trim_spelling, List.append_nil]
    · rw [millisOf_replicate]
      decide
  · let most : Part :=
      ⟨"18446744073709551615".toList, .millisecond, by decide, by decide, by decide, by decide⟩
    let one : Part := ⟨['1'], .millisecond, by decide, by decide, by decide, by decide⟩
    refine ⟨one :: List.replicate 1000 most, [], ?_, nofun, .inr ⟨rfl, ?_⟩⟩
    · rw [String.toList_append, toList_times (p := most) rfl, List.append_nil]
      exact trim_spelling (one :: List.replicate 1000 most)
    · rw [millisOf, millisOf_replicate]
      decide

end Duration

end ResourceSync
