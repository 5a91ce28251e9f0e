import ResourceSync.Binary64.Basic

/-! Quotients that are not too great are rounded to finite doubles. -/
namespace ResourceSync.Binary64

variable {negative : Bool} {n d m a b c f : Nat}

theorem magnitude_ofMagnitude (h : m < 9223372036854775808) :
    (ofMagnitude negative m).magnitude = m := by
  have hpow : Nat.pow 2 63 = 9223372036854775808 := rfl
  simp only [magnitude, ofMagnitude, ofNatBits, UInt64.toNat_ofNat', hpow]
  split <;> omega

theorem isFinite_ofMagnitude (h : m < infinityMagnitude) :
    (ofMagnitude negative m).isFinite = true := by
  have hinf : infinityMagnitude = 9218868437227405312 := rfl
  rw [isFinite, magnitude_ofMagnitude (by omega), decide_eq_true_eq]
  exact h

/-- Whether one number is below another does not change when powers of two move across. -/
theorem mul_pow_lt (h : n * Nat.pow 2 a < d * Nat.pow 2 b) (hexp : b + c ≤ f + a) :
    n * Nat.pow 2 c < d * Nat.pow 2 f := by
  rw [Nat.pow_eq, Nat.pow_eq] at h ⊢
  have hmoved : n * 2 ^ c * 2 ^ a < d * 2 ^ f * 2 ^ a :=
    calc n * 2 ^ c * 2 ^ a = n * 2 ^ a * 2 ^ c := Nat.mul_right_comm ..
      _ < d * 2 ^ b * 2 ^ c := Nat.mul_lt_mul_of_pos_right h (Nat.two_pow_pos c)
      _ = d * 2 ^ (b + c) := by rw [Nat.pow_add, Nat.mul_assoc]
      _ ≤ d * 2 ^ (f + a) := Nat.mul_le_mul_left d (Nat.pow_le_pow_right (by decide) hexp)
      _ = d * 2 ^ f * 2 ^ a := by rw [Nat.pow_add, Nat.mul_assoc]
  exact Nat.lt_of_mul_lt_mul_right hmoved

theorem floorLog_le (n d : Nat) : floorLog n d ≤ (n.log2 : Int) - d.log2 := by
  unfold floorLog
  dsimp only
  split <;> omega

/-- A quotient is below the power of two that follows the one found for it. -/
theorem lt_floorLog (hd : 0 < d) : n * Nat.pow 2 (-(floorLog n d + 1)).toNat <
    d * Nat.pow 2 (floorLog n d + 1).toNat := by
  have hn : n < 2 ^ (n.log2 + 1) := Nat.lt_log2_self
  have hlog : 2 ^ d.log2 ≤ d := Nat.log2_self_le (Nat.ne_of_gt hd)
  have hbelow : n * Nat.pow 2 d.log2 < d * Nat.pow 2 (n.log2 + 1) :=
    calc n * 2 ^ d.log2 < 2 ^ (n.log2 + 1) * 2 ^ d.log2 :=
          Nat.mul_lt_mul_of_pos_right hn (Nat.two_pow_pos _)
      _ = 2 ^ d.log2 * 2 ^ (n.log2 + 1) := Nat.mul_comm ..
      _ ≤ d * 2 ^ (n.log2 + 1) := Nat.mul_le_mul_right _ hlog
  unfold floorLog
  dsimp only
  split
  · exact mul_pow_lt hbelow (by omega)
  · next habove => exact mul_pow_lt (Nat.lt_of_not_le habove) (by omega)

theorem roundedQuotient_le (h : n < d * m) : roundedQuotient n d ≤ m := by
  have hq : n / d < m := Nat.div_lt_of_lt_mul h
  unfold roundedQuotient
  dsimp only
  split
  · omega
  · omega
  · split <;> omega

/-- The significand needs one bit more than it has at most, when it is rounded up to a power of
two. -/
theorem significand_le {e : Int} (hd : 0 < d) (he : floorLog n d - 52 ≤ e) :
    roundedQuotient (n * Nat.pow 2 (-e).toNat) (d * Nat.pow 2 e.toNat) ≤ Nat.pow 2 53 := by
  have hpow : Nat.pow 2 e.toNat * Nat.pow 2 53 = Nat.pow 2 (e.toNat + 53) := (Nat.pow_add ..).symm
  refine roundedQuotient_le ?_
  rw [Nat.mul_assoc, hpow]
  exact mul_pow_lt (lt_floorLog hd) (by omega)

theorem isFinite_ofRatio (hd : 0 < d) (h : n.log2 ≤ d.log2 + 1022) :
    (ofRatio negative n d).isFinite = true := by
  have hinf : infinityMagnitude = 2047 * 2 ^ 52 := rfl
  unfold ofRatio
  split
  · exact isFinite_ofMagnitude (by decide)
  · refine isFinite_ofMagnitude (Nat.lt_of_le_of_lt (Nat.min_le_left ..) ?_)
    have hlog := floorLog_le n d
    have hm := significand_le (n := n) (e := max (floorLog n d - 52) (-1074)) hd (by omega)
    have he : (max (floorLog n d - 52) (-1074) + 1074).toNat ≤ 2044 := by omega
    have hscaled := Nat.mul_le_mul_right (Nat.pow 2 52) he
    rw [hinf]
    simp only [Nat.pow_eq] at hm hscaled ⊢
    omega

/-- A whole number within 64 bits is a finite double. -/
theorem isFinite_ofInt {n : Int} (low : -9223372036854775808 ≤ n)
    (high : n < 18446744073709551616) : (ofInt n).isFinite = true := by
  refine isFinite_ofRatio (by decide) ?_
  have hlog : n.natAbs.log2 < 65 := by
    by_cases hzero : n.natAbs = 0
    · simp [hzero]
    · refine (Nat.log2_lt hzero).2 ?_
      omega
  omega

theorem isFinite_ofNat (h : n < 18446744073709551616) : (ofNat n).isFinite = true :=
  isFinite_ofInt (n := n) (by omega) (by omega)

theorem isFinite_neg {x : Binary64} (h : x.isFinite = true) : x.neg.isFinite = true := by
  refine isFinite_ofMagnitude ?_
  simpa [isFinite] using h

theorem mul_two_pow_lt (hn : n < Nat.pow 2 a) (hc : c ≤ b) : n * Nat.pow 2 c < Nat.pow 2 (a + b) :=
  calc n * 2 ^ c < 2 ^ a * 2 ^ c := Nat.mul_lt_mul_of_pos_right hn (Nat.two_pow_pos c)
    _ ≤ 2 ^ a * 2 ^ b := Nat.mul_le_mul_left _ (Nat.pow_le_pow_right (by decide) hc)
    _ = 2 ^ (a + b) := (Nat.pow_add 2 a b).symm

theorem significand_lt (x : Binary64) : x.significand < Nat.pow 2 53 := by
  have hpow : Nat.pow 2 52 = 4503599627370496 := rfl
  have hpow' : Nat.pow 2 53 = 9007199254740992 := rfl
  simp only [significand, hpow, hpow']
  split <;> omega

theorem size_lt {x : Binary64} (h : x.isFinite = true) : x.size < Nat.pow 2 (53 + 2045) := by
  have hinf : infinityMagnitude = 2047 * 2 ^ 52 := rfl
  have hmagnitude : x.magnitude < 2047 * 2 ^ 52 := by simpa [isFinite, hinf] using h
  have hscale : x.scale ≤ 2045 := by
    unfold scale
    rw [Nat.pow_eq]
    omega
  exact mul_two_pow_lt (a := 53) (b := 2045) x.significand_lt hscale

theorem log2_lt_of_lt_pow (ha : 0 < a) (h : n < Nat.pow 2 a) : n.log2 < a := by
  by_cases hzero : n = 0
  · simpa [hzero] using ha
  · exact (Nat.log2_lt hzero).2 h

theorem pos_of_pow_le (h : Nat.pow 2 a ≤ n) : 0 < n := Nat.lt_of_lt_of_le (Nat.two_pow_pos a) h

theorem le_log2_of_pow_le (h : Nat.pow 2 a ≤ n) : a ≤ n.log2 :=
  (Nat.le_log2 (Nat.ne_of_gt (pos_of_pow_le h))).2 h

/-- A finite number stays finite when it is divided by two or more. -/
theorem isFinite_div {x y : Binary64} (hx : x.isFinite = true) (hy : Nat.pow 2 1075 ≤ y.size) :
    (x.div y).isFinite = true := by
  have hpos := pos_of_pow_le hy
  have hylog : 1075 ≤ y.size.log2 := le_log2_of_pow_le (a := 1075) hy
  have hxlog : x.size.log2 < 53 + 2045 :=
    log2_lt_of_lt_pow (a := 53 + 2045) (by decide) (size_lt hx)
  exact isFinite_ofRatio hpos (by omega)

theorem le_size_powers : ∀ p < 309, 0 < p → Nat.pow 2 1075 ≤ (ofNat (Nat.pow 10 p)).size := by
  decide +kernel

end ResourceSync.Binary64
