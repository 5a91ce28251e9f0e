import Mathlib.Algebra.Order.Field.Power
import Mathlib.Data.Int.Log
import Mathlib.Data.Rat.Floor
import Mathlib.Tactic.FieldSimp
import Mathlib.Tactic.Linarith
import Mathlib.Tactic.NormNum
import Mathlib.Tactic.Positivity
import Mathlib.Tactic.Ring
import ResourceSync.Proofs.Magnitude

/-! Quotients become the double that is nearest to them. -/
namespace ResourceSync.Binary64

variable {negative : Bool} {n d m : Nat} {e : Int} {r : ℚ} {x : Binary64}

section logarithms

/-- A power as the quotient of two powers, one of which is one. -/
theorem zpow_eq_div (b : Nat) (e : Int) :
    (b : ℚ) ^ e = (b ^ e.toNat : Nat) / (b ^ (-e).toNat : Nat) := by
  rcases Int.le_total 0 e with h | h
  · obtain ⟨k, rfl⟩ := Int.eq_ofNat_of_zero_le h
    simp
  · obtain ⟨k, hk⟩ := Int.eq_ofNat_of_zero_le (Int.neg_nonneg_of_nonpos h)
    obtain rfl : e = -k := by omega
    simp

theorem two_zpow_le_div_iff (hd : 0 < d) :
    (2 : ℚ) ^ e ≤ n / d ↔ d * Nat.pow 2 e.toNat ≤ n * Nat.pow 2 (-e).toNat := by
  have hdq : (0 : ℚ) < d := by exact_mod_cast hd
  have hpow : (0 : ℚ) < (2 ^ (-e).toNat : Nat) := by exact_mod_cast Nat.two_pow_pos _
  rw [show (2 : ℚ) = (2 : Nat) from rfl, zpow_eq_div, div_le_div_iff₀ hpow hdq]
  rw [Nat.mul_comm d]
  exact_mod_cast Iff.rfl

theorem div_lt_two_zpow_iff (hd : 0 < d) :
    (n / d : ℚ) < 2 ^ e ↔ n * Nat.pow 2 (-e).toNat < d * Nat.pow 2 e.toNat := by
  rw [← not_le, two_zpow_le_div_iff hd, Nat.not_le]

/-- A binary logarithm lies between its bounds. -/
theorem log_eq (hr : 0 < r) (hlow : (2 : ℚ) ^ e ≤ r) (hhigh : r < 2 ^ (e + 1)) :
    Int.log 2 r = e := by
  have hle := (Int.zpow_le_iff_le_log (b := 2) (by decide) hr).1 (by exact_mod_cast hlow)
  have hlt := (Int.lt_zpow_iff_log_lt (b := 2) (by decide) hr).1 (by exact_mod_cast hhigh)
  omega

theorem floorLog_eq_log (hn : 0 < n) (hd : 0 < d) : floorLog n d = Int.log 2 (n / d : ℚ) := by
  have hpos : (0 : ℚ) < n / d := by positivity
  have hhigh : (n / d : ℚ) < 2 ^ (floorLog n d + 1) := (div_lt_two_zpow_iff hd).2 (lt_floorLog hd)
  refine (log_eq hpos ?_ hhigh).symm
  unfold floorLog
  dsimp only
  split
  · next h => exact (two_zpow_le_div_iff hd).2 h
  · have hnlog : ((2 : ℚ) ^ n.log2) ≤ n := by exact_mod_cast Nat.log2_self_le hn.ne'
    have hdlog : (d : ℚ) ≤ 2 ^ (d.log2 + 1) := by exact_mod_cast Nat.lt_log2_self.le
    have hsplit : (2 : ℚ) ^ ((n.log2 : Int) - d.log2 - 1) = 2 ^ n.log2 / 2 ^ (d.log2 + 1) := by
      rw [Int.sub_sub, zpow_sub₀ (by norm_num)]
      norm_cast
    rw [hsplit]
    exact div_le_div₀ (by positivity) hnlog (by positivity) hdlog

end logarithms

section rounding

/-- The natural number that is nearest to a rational; of two such, the even one. -/
structure RoundsTo (r : ℚ) (m : Nat) : Prop where
  low : m ≤ r + 1 / 2
  high : r ≤ m + 1 / 2
  even : m = r + 1 / 2 ∨ r = m + 1 / 2 → m % 2 = 0

theorem roundedQuotient_eq (hd : 0 < d) (h : RoundsTo (n / d) m) : roundedQuotient n d = m := by
  have hdq : (0 : ℚ) < d := by exact_mod_cast hd
  have hlow : 2 * (d * m) ≤ 2 * n + d := by
    have hle := h.low
    rw [div_add_div _ _ hdq.ne' two_ne_zero, le_div_iff₀ (by positivity)] at hle
    have hscaled : (2 * (d * m) : ℚ) ≤ 2 * n + d := by linarith
    exact_mod_cast hscaled
  have hhigh : 2 * n ≤ 2 * (d * m) + d := by
    have hle := (div_le_iff₀ hdq).1 h.high
    have hscaled : (2 * n : ℚ) ≤ 2 * (d * m) + d := by linarith
    exact_mod_cast hscaled
  have heven (htie : 2 * (d * m) = 2 * n + d ∨ 2 * n = 2 * (d * m) + d) : m % 2 = 0 := by
    refine h.even ?_
    rcases htie with htie | htie
    · have hq : (2 * (d * m) : ℚ) = 2 * n + d := by exact_mod_cast htie
      left
      field_simp
      linarith
    · have hq : (2 * n : ℚ) = 2 * (d * m) + d := by exact_mod_cast htie
      right
      field_simp
      linarith
  have hdiv := Nat.div_add_mod n d
  have hmod := Nat.mod_lt n hd
  -- The rounded quotient is the quotient or the number after it, and so is `m`.
  obtain hm | hm : m = n / d ∨ m = n / d + 1 := by
    have hupper : m < n / d + 2 := by
      by_contra hge
      have hmul := Nat.mul_le_mul_left d (Nat.le_of_not_lt hge)
      rw [Nat.mul_add] at hmul
      omega
    have hlower : n / d < m + 1 := by
      by_contra hge
      have hmul := Nat.mul_le_mul_left d (Nat.le_of_not_lt hge)
      rw [Nat.mul_add] at hmul
      omega
    omega
  · rw [hm] at hlow hhigh heven ⊢
    unfold roundedQuotient
    dsimp only
    split
    · rfl
    · next hgt => rw [Nat.compare_eq_gt] at hgt; omega
    · next heq => rw [Nat.compare_eq_eq] at heq; rw [if_pos (heven (by omega))]
  · rw [hm, Nat.mul_add] at hlow hhigh heven
    rw [hm]
    unfold roundedQuotient
    dsimp only
    split
    · next hlt => rw [Nat.compare_eq_lt] at hlt; omega
    · rfl
    · next heq =>
      rw [Nat.compare_eq_eq] at heq
      have hsucc := heven (by omega)
      rw [if_neg (by omega)]

theorem scaled_quotient (n d : Nat) (e : Int) :
    ((n * Nat.pow 2 (-e).toNat : Nat) / (d * Nat.pow 2 e.toNat : Nat) : ℚ) = n / d / 2 ^ e := by
  have hpow := zpow_eq_div 2 e
  rw [Nat.cast_ofNat] at hpow
  rw [Nat.pow_eq, Nat.pow_eq, Nat.cast_mul, Nat.cast_mul, mul_div_mul_comm, hpow,
    div_div_eq_mul_div, mul_div_assoc]

/-- A positive quotient becomes the magnitude that it rounds to in units of the last place. -/
theorem ofRatio_of_roundsTo (hn : 0 < n) (hd : 0 < d)
    (he : max (Int.log 2 (n / d : ℚ) - 52) (-1074) = e) (hm : RoundsTo (n / d / 2 ^ e) m)
    (hfinite : (e + 1074).toNat * Nat.pow 2 52 + m < infinityMagnitude) :
    ofRatio negative n d = ofMagnitude negative ((e + 1074).toNat * Nat.pow 2 52 + m) := by
  have hpos : 0 < d * Nat.pow 2 e.toNat := Nat.mul_pos hd (Nat.pow_pos (by decide))
  have hround := roundedQuotient_eq hpos (scaled_quotient n d e ▸ hm)
  rw [ofRatio, if_neg hn.ne', floorLog_eq_log hn hd]
  dsimp only
  rw [he, hround, Nat.min_eq_left hfinite.le]

end rounding

section words

theorem magnitude_eq (x : Binary64) : x.magnitude = x.scale * Nat.pow 2 52 + x.significand := by
  have hpow : Nat.pow 2 52 = 4503599627370496 := rfl
  simp only [scale, significand, hpow]
  split <;> omega

theorem le_significand (h : 0 < x.scale) : Nat.pow 2 52 ≤ x.significand := by
  have hpow : Nat.pow 2 52 = 4503599627370496 := rfl
  simp only [scale, significand, hpow] at h ⊢
  split <;> omega

end words

section whole

theorem size_ofMagnitude {s : Nat} (hlow : Nat.pow 2 52 ≤ m) (hhigh : m < Nat.pow 2 53)
    (hs : s < 2046) : (ofMagnitude negative (s * Nat.pow 2 52 + m)).size = m * Nat.pow 2 s := by
  have hpow : Nat.pow 2 52 = 4503599627370496 := rfl
  have hpow' : Nat.pow 2 53 = 9007199254740992 := rfl
  rw [hpow] at hlow
  rw [hpow'] at hhigh
  have hmagnitude :
      (ofMagnitude negative (s * Nat.pow 2 52 + m)).magnitude = s * 4503599627370496 + m :=
    magnitude_ofMagnitude (by rw [hpow]; omega)
  have hsignificand : (ofMagnitude negative (s * Nat.pow 2 52 + m)).significand = m := by
    rw [significand, hmagnitude, hpow]
    split <;> omega
  have hscale : (ofMagnitude negative (s * Nat.pow 2 52 + m)).scale = s := by
    rw [scale, hmagnitude, hpow]
    omega
  rw [size, hsignificand, hscale]

theorem roundsTo_self (m : Nat) : RoundsTo m m := by
  refine ⟨by linarith, by linarith, ?_⟩
  rintro (h | h)
  · linarith
  · linarith

/-- A whole number that a significand can hold is a double. -/
theorem size_ofNat (hn : 0 < n) (h : n < Nat.pow 2 53) : (ofNat n).size = n * Nat.pow 2 1074 := by
  have hlow : 2 ^ Nat.log 2 n ≤ n := Nat.pow_log_le_self 2 hn.ne'
  have hhigh : n < 2 ^ (Nat.log 2 n + 1) := Nat.lt_pow_succ_log_self (by decide) n
  have hlog : Nat.log 2 n < 53 := (Nat.log_lt_iff_lt_pow (by decide) hn.ne').2 h
  generalize Nat.log 2 n = k at hlow hhigh hlog
  have he : max (Int.log 2 (n / (1 : Nat) : ℚ) - 52) (-1074) = (k : Int) - 52 := by
    have hpos : (0 : ℚ) < n := by exact_mod_cast hn
    have hk : Int.log 2 (n : ℚ) = k :=
      log_eq hpos (by exact_mod_cast hlow) (by exact_mod_cast hhigh)
    rw [Nat.cast_one, div_one, hk]
    omega
  have hvalue : (n / (1 : Nat) / 2 ^ ((k : Int) - 52) : ℚ) = (n * 2 ^ (52 - k) : Nat) := by
    have hexponent : (k : Int) - 52 = -(52 - k : Nat) := by omega
    rw [hexponent, zpow_neg, zpow_natCast, div_inv_eq_mul, Nat.cast_one, div_one]
    norm_cast
  have hm := roundsTo_self (n * 2 ^ (52 - k))
  rw [← hvalue] at hm
  have hbounds : 2 ^ 52 ≤ n * 2 ^ (52 - k) ∧ n * 2 ^ (52 - k) < 2 ^ 53 := by
    constructor
    · calc 2 ^ 52 = 2 ^ k * 2 ^ (52 - k) := (pow_mul_pow_sub 2 (by omega)).symm
        _ ≤ n * 2 ^ (52 - k) := Nat.mul_le_mul_right _ hlow
    · calc n * 2 ^ (52 - k) < 2 ^ (k + 1) * 2 ^ (52 - k) :=
            Nat.mul_lt_mul_of_pos_right hhigh (Nat.two_pow_pos _)
        _ = 2 ^ (k + 1 + (52 - k)) := (Nat.pow_add ..).symm
        _ = 2 ^ 53 := by congr 1; omega
  have hinf : infinityMagnitude = 2047 * 2 ^ 52 := rfl
  have hscale : ((k : Int) - 52 + 1074).toNat = k + 1022 := by omega
  have hsize : (ofMagnitude false ((k + 1022) * Nat.pow 2 52 + n * 2 ^ (52 - k))).size =
      n * 2 ^ (52 - k) * Nat.pow 2 (k + 1022) := size_ofMagnitude hbounds.1 hbounds.2 (by omega)
  rw [ofNat, ofRatio_of_roundsTo hn Nat.one_pos he hm, hscale, hsize]
  · have hpower : 2 ^ (52 - k) * Nat.pow 2 (k + 1022) = Nat.pow 2 1074 := by
      rw [show 1074 = 52 - k + (k + 1022) by omega]
      exact (Nat.pow_add ..).symm
    exact (Nat.mul_assoc ..).trans (congrArg (n * ·) hpower)
  · rw [hscale, hinf]
    simp only [Nat.pow_eq]
    omega

theorem size_powers : ∀ k < 23, (ofNat (Nat.pow 10 k)).size = Nat.pow 10 k * Nat.pow 2 1074 := by
  decide +kernel

end whole

section intervals

/-- A quarter of the unit of the last place. -/
def quarter (x : Binary64) : ℚ := 2 ^ ((x.scale : Int) - 1076)

/-- The lower end of the interval around a magnitude, in quarters. Below a power of two the numbers
are twice as dense. -/
def lowEnd (x : Binary64) : Nat :=
  if x.significand = Nat.pow 2 52 ∧ 0 < x.scale then 4 * x.significand - 1
  else 4 * x.significand - 2

/-- The rationals that round to a magnitude. The ends of the interval do if the significand is
even. -/
structure Attracts (x : Binary64) (r : ℚ) : Prop where
  low : x.lowEnd ≤ r / x.quarter
  high : r / x.quarter ≤ 4 * x.significand + 2
  even : r / x.quarter = x.lowEnd ∨ r / x.quarter = 4 * x.significand + 2 → x.significand % 2 = 0

theorem quarter_pos (x : Binary64) : 0 < x.quarter := zpow_pos (by norm_num) _

theorem two_pow_mul_quarter (x : Binary64) (k : Nat) :
    2 ^ k * x.quarter = (2 : ℚ) ^ ((x.scale : Int) - 1076 + k) := by
  rw [quarter, zpow_add₀ (by norm_num), zpow_natCast, mul_comm]

/-- Units of the scale and of the one below are counted in quarters. -/
theorem div_two_zpow (k : Nat) (he : e = (x.scale : Int) - 1076 + k) :
    r / 2 ^ e = r / x.quarter / 2 ^ k := by
  rw [he, ← two_pow_mul_quarter, div_mul_eq_div_div_swap]

theorem le_lowEnd (x : Binary64) : 4 * x.significand - 2 ≤ x.lowEnd := by
  unfold lowEnd
  split <;> omega

theorem Attracts.pos (h : x.Attracts r) (hx : x.significand ≠ 0) : 0 < r := by
  have hlow := x.le_lowEnd
  have hend : (0 : ℚ) < x.lowEnd := by exact_mod_cast (show 0 < x.lowEnd by omega)
  exact (div_pos_iff_of_pos_right x.quarter_pos).1 (lt_of_lt_of_le hend h.low)

/-- A rational in the interval rounds to the significand where it has the same scale. -/
theorem Attracts.roundsTo (h : x.Attracts r) :
    RoundsTo (r / 2 ^ ((x.scale : Int) - 1074)) x.significand := by
  have hlowEnd : (4 * x.significand - 2 : ℚ) ≤ x.lowEnd := by
    have hle := x.le_lowEnd
    have hcast : (4 * x.significand : ℚ) ≤ x.lowEnd + 2 := by
      exact_mod_cast (show 4 * x.significand ≤ x.lowEnd + 2 by omega)
    linarith
  obtain ⟨hlow, hhigh, heven⟩ := h
  rw [div_two_zpow (x := x) 2 (by omega)]
  refine ⟨by linarith, by linarith, ?_⟩
  rintro (htie | htie)
  · exact heven (.inl (by linarith))
  · exact heven (.inr (by linarith))

theorem log_lt_of_quarters {k : Nat} (hr : 0 < r) (h : r / x.quarter < 2 ^ k) :
    Int.log 2 r < (x.scale : Int) - 1076 + k := by
  rw [div_lt_iff₀ x.quarter_pos, two_pow_mul_quarter] at h
  exact (Int.lt_zpow_iff_log_lt (b := 2) (by decide) hr).1 (by exact_mod_cast h)

theorem le_log_of_quarters {k : Nat} (hr : 0 < r) (h : 2 ^ k ≤ r / x.quarter) :
    (x.scale : Int) - 1076 + k ≤ Int.log 2 r := by
  rw [le_div_iff₀ x.quarter_pos, two_pow_mul_quarter] at h
  exact (Int.zpow_le_iff_le_log (b := 2) (by decide) hr).1 (by exact_mod_cast h)

/-- Only a power of two has rationals of a smaller scale in its interval. -/
theorem Attracts.lowEnd_eq (h : x.Attracts r) (hscale : 0 < x.scale)
    (hbelow : r / x.quarter < 2 ^ 54) :
    x.significand = Nat.pow 2 52 ∧ x.lowEnd = 2 ^ 54 - 1 := by
  have hlt : x.lowEnd < 2 ^ 54 := by exact_mod_cast lt_of_le_of_lt h.low hbelow
  have hle := le_significand hscale
  have hpow : Nat.pow 2 52 = 2 ^ 52 := rfl
  unfold lowEnd at hlt ⊢
  split at hlt
  · next hpower =>
    rw [if_pos hpower]
    omega
  · next hother =>
    omega

/-- The exponent that a rational of the interval is rounded with where it has the same scale. -/
theorem Attracts.exponent (h : x.Attracts r) (hr : 0 < r)
    (hbinade : x.scale = 0 ∨ 2 ^ 54 ≤ r / x.quarter) :
    max (Int.log 2 r - 52) (-1074) = (x.scale : Int) - 1074 := by
  have hsignificand : (x.significand + 1 : ℚ) ≤ 2 ^ 53 := by exact_mod_cast x.significand_lt
  have hhigh := h.high
  have hbelow : r / x.quarter < 2 ^ 55 := by linarith
  have hlog := log_lt_of_quarters hr hbelow
  rcases hbinade with hscale | habove
  · omega
  · have hlog' := le_log_of_quarters (k := 54) hr habove
    omega

/-- A rational just below a power of two, in whose interval it lies, is rounded up to it. -/
theorem Attracts.roundsTo_power (h : x.Attracts r) (hr : 0 < r) (hscale : 0 < x.scale)
    (hbelow : r / x.quarter < 2 ^ 54) :
    max (Int.log 2 r - 52) (-1074) = (x.scale : Int) - 1075 ∧
      RoundsTo (r / 2 ^ ((x.scale : Int) - 1075)) (2 ^ 53) := by
  have hlow := h.low
  rw [(h.lowEnd_eq hscale hbelow).2] at hlow
  norm_num at hlow
  constructor
  · have habove : 2 ^ 53 ≤ r / x.quarter := by linarith
    have hlog := log_lt_of_quarters hr hbelow
    have hlog' := le_log_of_quarters hr habove
    omega
  · rw [div_two_zpow (x := x) 1 (by omega)]
    refine ⟨?_, ?_, fun _ => rfl⟩
    · norm_num
      linarith
    · norm_num
      linarith

/-- A quotient in the interval around a magnitude becomes that magnitude. -/
theorem ofRatio_of_attracts (hfinite : x.isFinite = true) (hx : x.significand ≠ 0) (hd : 0 < d)
    (h : x.Attracts (n / d)) : ofRatio negative n d = ofMagnitude negative x.magnitude := by
  have hpos : (0 : ℚ) < n / d := h.pos hx
  have hn : 0 < n := by
    by_contra hzero
    obtain rfl : n = 0 := by omega
    simp at hpos
  have hmagnitude : x.magnitude < infinityMagnitude := of_decide_eq_true hfinite
  rw [magnitude_eq] at hmagnitude ⊢
  -- Below its own binade the number is a power of two, to which the quotient is rounded up.
  by_cases hbinade : x.scale = 0 ∨ 2 ^ 54 ≤ n / d / x.quarter
  · have hscale : ((x.scale : Int) - 1074 + 1074).toNat = x.scale := by omega
    rw [ofRatio_of_roundsTo hn hd (h.exponent hpos hbinade) h.roundsTo (by rwa [hscale]), hscale]
  · obtain ⟨hscale, hbelow⟩ := not_or.1 hbinade
    rw [not_le] at hbelow
    obtain ⟨hexponent, hround⟩ := h.roundsTo_power hpos (by omega) hbelow
    have hplace : ((x.scale : Int) - 1075 + 1074).toNat * Nat.pow 2 52 + 2 ^ 53 =
        x.scale * Nat.pow 2 52 + x.significand := by
      rw [(h.lowEnd_eq (by omega) hbelow).1]
      simp only [Nat.pow_eq]
      omega
    rw [ofRatio_of_roundsTo hn hd hexponent hround (by rwa [hplace]), hplace]

end intervals

section division

theorem negative_ofMagnitude (h : m < 9223372036854775808) :
    (ofMagnitude negative m).negative = negative := by
  have hpow : Nat.pow 2 63 = 9223372036854775808 := rfl
  have hbits : (ofMagnitude negative m).bits.toNat = m + if negative then Nat.pow 2 63 else 0 := by
    rw [ofMagnitude, ofNatBits, UInt64.toNat_ofNat', Nat.mod_eq_of_lt]
    split <;> omega
  rw [Binary64.negative, hbits]
  cases negative with
  | true => exact decide_eq_true (Nat.le_add_left ..)
  | false => exact decide_eq_false (by simpa [hpow] using h)

theorem ofMagnitude_magnitude (x : Binary64) : ofMagnitude x.negative x.magnitude = x := by
  have hpow : Nat.pow 2 63 = 9223372036854775808 := rfl
  have hlt := x.bits.toNat_lt
  have hbits : (x.magnitude + if x.negative then Nat.pow 2 63 else 0) = x.bits.toNat := by
    simp only [Binary64.negative, magnitude, hpow, decide_eq_true_eq]
    split <;> omega
  rw [ofMagnitude, ofNatBits, hbits, UInt64.ofNat_toNat]

/-- A double is its magnitude with its sign. -/
theorem magnitude_with_sign (x : Binary64) :
    (if x.negative then (ofMagnitude false x.magnitude).neg else ofMagnitude false x.magnitude) =
      x := by
  have hself := x.ofMagnitude_magnitude
  cases hnegative : x.negative with
  | true =>
    have hlt : x.magnitude < 9223372036854775808 := Nat.mod_lt _ (Nat.two_pow_pos 63)
    rw [hnegative] at hself
    rw [if_pos rfl, neg, negative_ofMagnitude hlt, magnitude_ofMagnitude hlt]
    exact hself
  | false =>
    rw [hnegative] at hself
    exact hself

theorem negative_ofRatio (negative : Bool) (n d : Nat) :
    (ofRatio negative n d).negative = negative := by
  have hinf : infinityMagnitude = 9218868437227405312 := rfl
  unfold ofRatio
  split
  · exact negative_ofMagnitude (by decide)
  · refine negative_ofMagnitude (Nat.lt_of_le_of_lt (Nat.min_le_right ..) ?_)
    omega

/-- The quotient of two doubles becomes the magnitude in whose interval it lies. -/
theorem div_of_attracts {y z : Binary64} {p : Nat} (hfinite : x.isFinite = true)
    (hx : x.significand ≠ 0) (hy : y.size = n * Nat.pow 2 p) (hz : z.size = d * Nat.pow 2 p)
    (hd : 0 < d) (h : x.Attracts (n / d)) :
    y.div z = ofMagnitude (y.negative != z.negative) x.magnitude := by
  have hpow : 0 < Nat.pow 2 p := Nat.two_pow_pos p
  have hratio : ((n * Nat.pow 2 p : Nat) / (d * Nat.pow 2 p : Nat) : ℚ) = n / d := by
    rw [Nat.cast_mul, Nat.cast_mul]
    exact mul_div_mul_right _ _ (by exact_mod_cast hpow.ne')
  rw [div, hy, hz]
  exact ofRatio_of_attracts hfinite hx (Nat.mul_pos hd hpow) (hratio ▸ h)

/-- A short decimal becomes the magnitude in whose interval it lies. -/
theorem div_ofNat {k : Nat} (hfinite : x.isFinite = true) (hx : x.significand ≠ 0) (hn : 0 < n)
    (hshort : n < Nat.pow 2 53) (hk : k < 23) (h : x.Attracts (n / Nat.pow 10 k)) :
    (ofNat n).div (ofNat (Nat.pow 10 k)) = ofMagnitude false x.magnitude := by
  have hten : 0 < Nat.pow 10 k := Nat.pow_pos (by decide)
  have hdiv := div_of_attracts hfinite hx (size_ofNat hn hshort) (size_powers k hk) hten
    (by exact_mod_cast h)
  rw [hdiv, ofNat, ofNat, negative_ofRatio, negative_ofRatio]
  rfl

end division

end ResourceSync.Binary64
