import Mathlib.Algebra.Order.Floor.Div
import ResourceSync.Proofs.Amounts

/-! The windows that durations are written as: an amount of the largest unit from days to seconds
that divides the seconds which cover the duration, read again as these seconds. -/
namespace ResourceSync

namespace Duration
variable {ε : Type} {d : Duration} {seconds : Nat}

/-- The units of windows. -/
def windowUnits : List TimeUnit := [.day, .hour, .minute, .second]

/-- The duration in seconds, rounded up to a whole one. -/
def roundedSeconds (d : Duration) : Nat := d.nanoseconds ⌈/⌉ second

/-- The seconds of a window, which is no shorter than one. -/
def windowSeconds (d : Duration) : Nat := max 1 d.roundedSeconds

/-- Decimal digits and one letter for a unit: the pattern that windows have to match. -/
def IsWindow (text : String) : Prop :=
  ∃ digits c, text.toList = digits ++ [c] ∧ digits ≠ [] ∧ digits.all isDigit = true ∧
    c ∈ ['s', 'm', 'h', 'd']

theorem ceilSeconds_eq (d : Duration) : d.ceilSeconds = d.roundedSeconds := by
  unfold ceilSeconds roundedSeconds wholeSeconds subsecond
  rw [Nat.ceilDiv_eq_add_pred_div]
  unfold second
  split <;> omega

theorem mem_takeWhile_windowUnits : ∀ u ∈ windowUnits, ∀ v ∈ windowUnits, u.millis < v.millis →
    v ∈ windowUnits.takeWhile (· ≠ u) := by decide

namespace Amount
variable {a : Amount}

/-- An amount of the largest unit of windows that divides so many seconds. -/
structure Fills (a : Amount) (seconds : Nat) : Prop where
  unit_mem : a.unit ∈ windowUnits
  millis_eq : a.millis = seconds * 1000
  largest : ∀ u ∈ windowUnits, u.millis ∣ seconds * 1000 → u.millis ≤ a.unit.millis

theorem isDigit_of_mem_toDigits {n : Nat} {c : Char} (h : c ∈ Nat.toDigits 10 n) :
    isDigit c = true := by
  have hdigit := Nat.isDigit_of_mem_toDigits (by decide) (by decide) h
  simpa [Char.isDigit, isDigit, Char.le_def] using hdigit

theorem digitsValue_toDigits (n : Nat) : digitsValue (Nat.toDigits 10 n) = n := by
  have hread := Nat.ofDigitChars_toDigits (b := 10) (n := n) (by decide) (by decide)
  simpa [digitsValue, Nat.ofDigitChars, Nat.mul_comm] using hread

/-- So many of a unit, without zeros before the number. -/
def ofNumber (n : Nat) (u : TimeUnit) : Amount where
  digits := Nat.toDigits 10 n
  unit := u
  ne_nil := Nat.toDigits_ne_nil
  isNumber := List.all_eq_true.2 fun _ => isDigit_of_mem_toDigits

theorem millis_ofNumber (n : Nat) (u : TimeUnit) : (ofNumber n u).millis = n * u.millis := by
  rw [millis, number, ofNumber, digitsValue_toDigits]

theorem text_ofNumber (n : Nat) (u : TimeUnit) :
    (ofNumber n u).text = (toString n ++ String.ofList u.symbol).toList := by
  simp [text, ofNumber]

theorem text_of_mem_windowUnits (h : a.unit ∈ windowUnits) : ∃ c ∈ ['s', 'm', 'h', 'd'],
    a.text = a.digits ++ [c] := by
  unfold text
  generalize a.unit = u at h
  simp only [windowUnits, List.mem_cons, List.not_mem_nil, or_false] at h
  rcases h with rfl | rfl | rfl | rfl
  · exact ⟨'d', by simp, rfl⟩
  · exact ⟨'h', by simp, rfl⟩
  · exact ⟨'m', by simp, rfl⟩
  · exact ⟨'s', by simp, rfl⟩

/-- A number of a unit fills the seconds that it makes up, if no larger unit divides them. -/
theorem exists_spelled (n : Nat) (u : TimeUnit) (hu : u ∈ windowUnits)
    (hn : n * u.millis = seconds * 1000)
    (hlarger : ∀ v ∈ windowUnits.takeWhile (· ≠ u), ¬ v.millis ∣ seconds * 1000) :
    ∃ window a, (.ok (toString n ++ String.ofList u.symbol) : Checked ε String) = .ok window ∧
      window.toList = text a ∧ a.Fills seconds := by
  refine ⟨_, ofNumber n u, rfl, (text_ofNumber n u).symm, hu, by rw [millis_ofNumber, hn], ?_⟩
  intro v hv hdvd
  by_contra hlt
  exact hlarger v (mem_takeWhile_windowUnits u hu v hv (Nat.lt_of_not_le hlt)) hdvd

theorem Fills.fitsWords (h : a.Fills seconds) (hlt : seconds * 1000 < UInt64.size) :
    a.FitsWords := by
  have hmillis : a.millis < UInt64.size := by
    rw [h.millis_eq]
    exact hlt
  have hunit : 1 ≤ a.unit.millis := by cases a.unit <;> decide
  exact ⟨Nat.lt_of_le_of_lt (Nat.le_mul_of_pos_right _ hunit) hmillis, hmillis⟩

end Amount

/-- The window of a duration is an amount of its seconds, in the largest unit that divides them. -/
theorem exists_window (h : d.roundedSeconds < UInt64.size) :
    ∃ window a, (d.timeWindow : Checked ε String) = .ok window ∧ window.toList = Amount.text a ∧
      a.Fills d.windowSeconds := by
  unfold timeWindow windowSeconds
  dsimp only
  rw [ceilSeconds_eq, if_neg (Nat.not_le_of_lt h)]
  generalize d.roundedSeconds = s
  -- The units are tried from the largest on, so the ones before the first that divides do not.
  split_ifs with hzero hday hhour hminute
  · apply Amount.exists_spelled 1 .second (by decide)
    · simp [hzero, TimeUnit.millis]
    · simp [hzero, windowUnits, TimeUnit.millis]
  · apply Amount.exists_spelled (s / 86400) .day (by decide)
    · simp only [TimeUnit.millis]
      omega
    · simp [windowUnits]
  · apply Amount.exists_spelled (s / 3600) .hour (by decide)
    · simp only [TimeUnit.millis]
      omega
    · simp [windowUnits, TimeUnit.millis]
      omega
  · apply Amount.exists_spelled (s / 60) .minute (by decide)
    · simp only [TimeUnit.millis]
      omega
    · simp [windowUnits, TimeUnit.millis]
      omega
  · apply Amount.exists_spelled s .second (by decide)
    · simp only [TimeUnit.millis]
      omega
    · simp [windowUnits, TimeUnit.millis]
      omega

theorem ofMillis_thousands (seconds : Nat) : ofMillis (seconds * 1000) = ofSeconds seconds := by
  rw [ofMillis, ofSeconds, second, Nat.mul_assoc]

/-- The window of a duration is read as the seconds that cover it, which it gives in the largest
unit that divides them. -/
theorem window_is_read_again (h : d.windowSeconds * 1000 < UInt64.size) :
    ∃ window, (d.timeWindow : Checked ε String) = .ok window ∧
      parse window = .ok (ofSeconds d.windowSeconds) ∧ IsWindow window ∧
      ∃ a : Amount, window.toList = a.text ∧ a.Fills d.windowSeconds := by
  have hrounded : d.roundedSeconds < UInt64.size := by
    have hle : d.roundedSeconds ≤ d.windowSeconds := Nat.le_max_right _ _
    omega
  obtain ⟨window, a, hwindow, htext, hfills⟩ := exists_window hrounded
  refine ⟨window, hwindow, ?_, ?_, a, htext, hfills⟩
  · rw [Amount.parse_of_text htext (hfills.fitsWords h), hfills.millis_eq, ofMillis_thousands]
  · obtain ⟨c, hc, hlast⟩ := Amount.text_of_mem_windowUnits hfills.unit_mem
    exact ⟨a.digits, c, htext.trans hlast, a.ne_nil, a.isNumber, hc⟩

theorem nearly_a_day_is_read_as_a_day : (ofMillis 86399001).windowSeconds * 1000 < UInt64.size ∧
    (ofMillis 86399001).timeWindow = (.ok "1d" : Checked DurationError String) ∧
      parse "1d" = .ok (ofSeconds 86400) := by
  have hseconds : (ofMillis 86399001).windowSeconds = 86400 := by decide
  have hlt : (ofMillis 86399001).windowSeconds * 1000 < UInt64.size := by
    rw [hseconds]
    decide
  have hday : (ofMillis 86399001).timeWindow = (.ok "1d" : Checked DurationError String) := by
    decide
  obtain ⟨window, hwindow, hparse, -⟩ := window_is_read_again hlt
  cases hday.symm.trans hwindow
  exact ⟨hlt, hday, hseconds ▸ hparse⟩

end Duration

end ResourceSync
