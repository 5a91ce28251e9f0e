import ResourceSync.Proofs.Printing
import ResourceSync.Proofs.Rounding

/-! Doubles with few digits are read back. Their digits and the power of ten that divides them are
exact doubles, and the quotient lies in the interval that the shortest decimal was chosen from. -/
namespace ResourceSync

open Json (Numeral isDigit isDigit_of_mem_replicate isDigit_of_mem_toDigits)

namespace Json.Numeral
variable {m : Numeral} {n k : Nat} {w f r : List Char}

/-- A numeral is no whole number, and it stands for `digits / 10 ^ places`. -/
structure Denotes (m : Numeral) (digits places : Nat) : Prop where
  notWhole : m.isWhole = false
  digits : m.significand.1 = digits
  places : m.power + m.significand.2 = -places

/-- All digits of a numeral are read where their number has 64 bits. -/
theorem Denotes.of_parts {places : Nat} (hwhole : m.isWhole = false)
    (hdigits : Nat.ofDigitChars 10 (m.whole ++ m.fraction) 0 = n) (hn : n < UInt64.size)
    (hpower : m.power = -places) : m.Denotes n (places + m.fraction.length) := by
  have hlead : Nat.ofDigitChars 10 m.whole 0 ≤ n := by
    rw [← hdigits, Nat.ofDigitChars_append]
    exact le_ofDigitChars _ _
  rw [Nat.ofDigitChars_append] at hdigits
  have hsignificand : m.significand = (n, -(m.fraction.length : Int)) := by
    rw [significand, leadingDigits_eq (by omega)]
    simp [leadingDigits_eq (hdigits.trans_lt hn), hdigits]
  refine ⟨hwhole, by rw [hsignificand], ?_⟩
  rw [hsignificand, hpower]
  dsimp only
  omega

theorem foldl_digitValue (s : List Char) (n : Nat) :
    s.foldl (fun v c => v * 10 + (digitValue c : Int)) n = Nat.ofDigitChars 10 s n := by
  induction s generalizing n with
  | nil => rfl
  | cons c s ih =>
    have hnext : (n * 10 + digitValue c : Int) = (10 * n + (c.toNat - '0'.toNat) : Nat) := by
      rw [digitValue]
      omega
    rw [List.foldl_cons, hnext, ih, Nat.ofDigitChars_cons]

/-- A numeral of few digits is rounded once, by a division. -/
theorem Denotes.document (h : m.Denotes n k) (hn : 0 < n) (hk : 0 < k) (hplaces : k < 23) :
    m.document =
      let x := (Binary64.ofNat n).div (Binary64.ofNat (Nat.pow 10 k))
      .float (if m.negative then x.neg else x) := by
  have hscaled : scaled n (-k) = some ((Binary64.ofNat n).div (Binary64.ofNat (Nat.pow 10 k))) := by
    have hsteps : (-k : Int).natAbs / 308 + 1 = 1 := by omega
    rw [scaled, if_neg (by omega), hsteps]
    simp [scaled.descend, show k ≤ 308 by omega]
  have hrounded : m.rounded = some ((Binary64.ofNat n).div (Binary64.ofNat (Nat.pow 10 k))) := by
    unfold rounded
    dsimp only
    rw [h.digits, h.places, if_neg (by omega), hscaled]
  have hvalue : m.value = .ok (.float (if m.negative then
      ((Binary64.ofNat n).div (Binary64.ofNat (Nat.pow 10 k))).neg else
      (Binary64.ofNat n).div (Binary64.ofNat (Nat.pow 10 k)))) := by
    simp only [value, h.notWhole, Bool.false_and, Bool.false_eq_true, if_false, hrounded]
  rw [Numeral.document, hvalue]

/-- A whole part and a fraction denote their digits, with as many places as the fraction has. -/
theorem denotes_point (negative : Bool) (hw : ∀ c ∈ w, isDigit c = true)
    (hf : ∀ c ∈ f, isDigit c = true) (hne : f ≠ []) (hdigits : Nat.ofDigitChars 10 (w ++ f) 0 = n)
    (hn : n < UInt64.size) : (ofUnsigned negative (w ++ '.' :: f)).Denotes n f.length := by
  have hparts : ofUnsigned negative (w ++ '.' :: f) = ⟨negative, w, f, false, [], false⟩ := by
    obtain ⟨c, cs, rfl⟩ := List.exists_cons_of_ne_nil hne
    simpa [exponentOf] using ofUnsigned_eq negative hw hf (r := []) (by simp)
  rw [hparts, ← Nat.zero_add f.length]
  exact .of_parts rfl hdigits hn rfl

/-- A negative power of ten adds to the places of the fraction. -/
theorem denotes_power (negative : Bool) (hw : ∀ c ∈ w, isDigit c = true)
    (hf : ∀ c ∈ f, isDigit c = true) (hdigits : Nat.ofDigitChars 10 (w ++ f) 0 = n)
    (hn : n < UInt64.size) :
    (ofUnsigned negative (w ++ ((if f.isEmpty then [] else '.' :: f) ++
      'e' :: '-' :: Nat.toDigits 10 k))).Denotes n (k + f.length) := by
  have hmark : ∀ c ∈ ('e' :: '-' :: Nat.toDigits 10 k).head?, isDigit c = false ∧ c ≠ '.' := by
    rintro c ⟨⟩
    exact ⟨rfl, by decide⟩
  rw [ofUnsigned_eq negative hw hf hmark]
  refine .of_parts (Bool.and_false _) hdigits hn ?_
  have hpower := foldl_digitValue (Nat.toDigits 10 k) 0
  rw [Nat.ofDigitChars_toDigits (by decide) (by decide)] at hpower
  exact congrArg (-·) hpower

end Json.Numeral

namespace Decimal
variable {d : Decimal}

/-- Zeros that are written out belong to the digits. -/
theorem denotes_whole (negative : Bool) (h : 0 ≤ d.exponent)
    (hn : d.digits * Nat.pow 10 (d.exponent + 1).toNat < UInt64.size) :
    (Numeral.ofUnsigned negative (d.positional ++ ['.', '0'])).Denotes
      (d.digits * Nat.pow 10 (d.exponent + 1).toNat) 1 := by
  have hvalue := Nat.ofDigitChars_toDigits (b := 10) (n := d.digits) (by decide) (by decide)
  rw [positional, if_pos h]
  refine Numeral.denotes_point (f := ['0']) negative ?_ ?_ (by simp) ?_ hn
  · exact List.forall_mem_append.2 ⟨fun _ => isDigit_of_mem_toDigits, isDigit_of_mem_replicate⟩
  · exact List.forall_mem_singleton.2 rfl
  · have hplaces : (d.exponent + 1).toNat = d.exponent.toNat + 1 := by omega
    have hzeros : ['0'] = List.replicate 1 '0' := rfl
    rw [hzeros, List.append_assoc, List.replicate_append_replicate, Nat.ofDigitChars_append, hvalue,
      Nat.ofDigitChars_replicate_zero, hplaces, Nat.mul_comm]
    rfl

theorem denotes_positional (negative : Bool) (h : d.exponent < 0) (hn : d.digits < UInt64.size) :
    (Numeral.ofUnsigned negative d.positional).Denotes d.digits d.exponent.natAbs := by
  have hdigits : ∀ c ∈ Nat.toDigits 10 d.digits, isDigit c = true :=
    fun _ => isDigit_of_mem_toDigits
  have hvalue := Nat.ofDigitChars_toDigits (b := 10) (n := d.digits) (by decide) (by decide)
  have hplaces : 0 < d.exponent.natAbs := by omega
  rw [positional, if_neg (by omega)]
  dsimp only
  generalize Nat.toDigits 10 d.digits = s, d.exponent.natAbs = places at hdigits hvalue hplaces ⊢
  split
  · next hlt =>
    have hlength : (s.drop (s.length - places)).length = places := by
      rw [List.length_drop]
      omega
    have hne : s.drop (s.length - places) ≠ [] := List.ne_nil_of_length_pos (by omega)
    have hdenotes := Numeral.denotes_point (w := s.take (s.length - places)) negative
      (fun c hc => hdigits c (List.mem_of_mem_take hc))
      (fun c hc => hdigits c (List.mem_of_mem_drop hc)) hne
      (by rw [List.take_append_drop, hvalue]) hn
    rwa [hlength] at hdenotes
  · next hle =>
    have hlength : (List.replicate (places - s.length) '0' ++ s).length = places := by
      rw [List.length_append, List.length_replicate]
      omega
    have hne : List.replicate (places - s.length) '0' ++ s ≠ [] :=
      List.ne_nil_of_length_pos (by omega)
    have hzeros : Nat.ofDigitChars 10 (['0'] ++ (List.replicate (places - s.length) '0' ++ s)) 0 =
        d.digits := by
      rw [Nat.ofDigitChars_append, Nat.ofDigitChars_append, Nat.ofDigitChars_replicate_zero]
      exact hvalue
    have hdenotes := Numeral.denotes_point (w := ['0']) negative (List.forall_mem_singleton.2 rfl)
      (List.forall_mem_append.2 ⟨isDigit_of_mem_replicate, hdigits⟩) hne hzeros hn
    rwa [hlength] at hdenotes

theorem denotes_scientific (negative : Bool) (h : d.leading < 0) (hn : d.digits < UInt64.size) :
    (Numeral.ofUnsigned negative d.scientific).Denotes d.digits d.exponent.natAbs := by
  have hdigits : ∀ c ∈ Nat.toDigits 10 d.digits, isDigit c = true :=
    fun _ => isDigit_of_mem_toDigits
  have hvalue := Nat.ofDigitChars_toDigits (b := 10) (n := d.digits) (by decide) (by decide)
  have hleading : d.leading = d.exponent + (Nat.toDigits 10 d.digits).length - 1 := rfl
  obtain ⟨c, cs, hcs⟩ := List.exists_cons_of_ne_nil (Nat.toDigits_ne_nil (n := d.digits) (b := 10))
  simp only [scientific, if_pos h]
  rw [hcs] at hdigits hvalue hleading ⊢
  rw [List.length_cons] at hleading
  obtain ⟨hc, htail⟩ := List.forall_mem_cons.1 hdigits
  have hdenotes := Numeral.denotes_power (w := [c]) (k := d.leading.natAbs) negative
    (List.forall_mem_singleton.2 hc) htail hvalue hn
  have hplaces : d.leading.natAbs + cs.length = d.exponent.natAbs := by omega
  rwa [hplaces] at hdenotes

/-- A decimal whose digits a significand holds is not written with a positive power of ten. -/
theorem leading_lt (hd : d.digits ≠ 0)
    (h : d.digits * Nat.pow 10 (d.exponent + 1).toNat < Nat.pow 2 53) : d.leading < 16 := by
  have hbound : d.digits * 10 ^ (d.exponent + 1).toNat < 10 ^ 16 := Nat.lt_trans h (by decide)
  have hleading : d.leading = d.exponent + (Nat.toDigits 10 d.digits).length - 1 := rfl
  have hplaces : (d.exponent + 1).toNat < 16 := by
    refine (Nat.pow_lt_pow_iff_right (by decide : 1 < 10)).1 (Nat.lt_of_le_of_lt ?_ hbound)
    exact Nat.le_mul_of_pos_left _ (by omega)
  have hlength : (Nat.toDigits 10 d.digits).length ≤ 16 - (d.exponent + 1).toNat := by
    refine (Nat.length_toDigits_le_iff (by decide) (by omega)).2 ?_
    rw [← pow_sub_mul_pow 10 hplaces.le] at hbound
    exact Nat.lt_of_mul_lt_mul_right hbound
  omega

section values
variable {m : Nat} {e : Int}

/-- The rational that a decimal stands for. -/
def value (d : Decimal) : ℚ := d.digits * 10 ^ d.exponent

theorem mul_zpow_eq_div (n b : Nat) (e : Int) :
    (n * (b : ℚ) ^ e) = (n * Nat.pow b e.toNat : Nat) / (Nat.pow b (-e).toNat : Nat) := by
  rw [Binary64.zpow_eq_div, Nat.cast_mul, mul_div_assoc]
  rfl

theorem value_eq_div (d : Decimal) : d.value =
    (d.digits * Nat.pow 10 d.exponent.toNat : Nat) / (Nat.pow 10 (-d.exponent).toNat : Nat) := by
  rw [← mul_zpow_eq_div]
  rfl

theorem value_of_nonneg (h : 0 ≤ d.exponent) :
    d.value = (d.digits * Nat.pow 10 (d.exponent + 1).toNat : Nat) / (Nat.pow 10 1 : Nat) := by
  obtain ⟨e, he⟩ := Int.eq_ofNat_of_zero_le h
  have hplaces : ((e : Int) + 1).toNat = e + 1 := rfl
  rw [value, he, hplaces, zpow_natCast, Nat.pow_eq, Nat.pow_eq, pow_succ]
  push_cast
  ring

theorem value_of_neg (h : d.exponent < 0) :
    d.value = d.digits / (Nat.pow 10 d.exponent.natAbs : Nat) := by
  have hzero : d.exponent.toNat = 0 := by omega
  have hplaces : (-d.exponent).toNat = d.exponent.natAbs := by omega
  rw [value_eq_div, hzero, hplaces]
  simp

/-- The comparison by whole numbers is that of the rationals. -/
theorem compareBinary_eq (d : Decimal) (m : Nat) (e : Int) :
    d.compareBinary m e = compare d.value (m * 2 ^ e) := by
  have hten : (0 : ℚ) < (Nat.pow 10 (-d.exponent).toNat : Nat) := by
    exact_mod_cast Nat.pow_pos (by decide)
  have htwo : (0 : ℚ) < (Nat.pow 2 (-e).toNat : Nat) := by exact_mod_cast Nat.two_pow_pos _
  have hbinary := mul_zpow_eq_div m 2 e
  rw [Nat.cast_ofNat] at hbinary
  rw [value_eq_div, hbinary, compareBinary]
  rcases lt_trichotomy
    ((d.digits * Nat.pow 10 d.exponent.toNat : Nat) / (Nat.pow 10 (-d.exponent).toNat : Nat) : ℚ)
    ((m * Nat.pow 2 e.toNat : Nat) / (Nat.pow 2 (-e).toNat : Nat)) with h | h | h
  · rw [compare_lt_iff_lt.2 h, compare_lt_iff_lt]
    exact_mod_cast (div_lt_div_iff₀ hten htwo).1 h
  · rw [compare_eq_iff_eq.2 h, compare_eq_iff_eq]
    exact_mod_cast (div_eq_div_iff hten.ne' htwo.ne').1 h
  · rw [compare_gt_iff_gt.2 h, compare_gt_iff_gt]
    exact_mod_cast (div_lt_div_iff₀ htwo hten).1 h

theorem value_stripped (limit : Nat) (d : Decimal) : (d.stripped limit).value = d.value := by
  induction limit generalizing d with
  | zero => rfl
  | succ limit ih =>
    rw [stripped]
    split
    · next hzero =>
      have hdigits : (d.digits : ℚ) = (d.digits / 10 : Nat) * 10 := by
        exact_mod_cast (Nat.div_mul_cancel (Nat.dvd_of_mod_eq_zero hzero.2)).symm
      rw [ih, value, value, hdigits, zpow_add_one₀ (by norm_num), mul_assoc, mul_comm (10 : ℚ)]
    · rfl

end values

end Decimal

namespace Binary64
variable {x : Binary64} {d : Decimal}

/-- What reads back lies in the interval. -/
theorem attracts_of_readsBack (h : x.readsBack d = true) : x.Attracts d.value := by
  have hquarter := x.quarter_pos
  have hcompare : ((compare d.value (x.lowEnd * x.quarter) == .gt ||
        (decide (x.significand % 2 = 0) && compare d.value (x.lowEnd * x.quarter) == .eq)) &&
      (compare d.value ((4 * x.significand + 2 : Nat) * x.quarter) == .lt ||
        (decide (x.significand % 2 = 0) &&
          compare d.value ((4 * x.significand + 2 : Nat) * x.quarter) == .eq))) = true := by
    simp only [readsBack, Decimal.compareBinary_eq] at h
    exact h
  simp only [Bool.and_eq_true, Bool.or_eq_true, beq_iff_eq, decide_eq_true_eq, compare_gt_iff_gt,
    compare_lt_iff_lt, compare_eq_iff_eq] at hcompare
  obtain ⟨hlow, hhigh⟩ := hcompare
  push_cast at hhigh
  rw [← div_lt_iff₀ hquarter, ← div_eq_iff hquarter.ne'] at hhigh
  rw [← lt_div_iff₀ hquarter, ← div_eq_iff hquarter.ne'] at hlow
  refine ⟨?_, ?_, ?_⟩
  · rcases hlow with h | ⟨-, h⟩
    · exact h.le
    · exact h.ge
  · rcases hhigh with h | ⟨-, h⟩
    · exact h.le
    · exact h.le
  · rintro (htie | htie)
    · exact (hlow.resolve_left htie.not_gt).1
    · exact (hhigh.resolve_left htie.not_lt).1

theorem attracts_shortest (hx : x.significand ≠ 0) (h : x.shortest.exponent ≠ -1074) :
    x.Attracts x.shortest.value := by
  rcases shortest_cases hx with ⟨d, hd, hshortest⟩ | hshortest
  · rw [hshortest, Decimal.value_stripped]
    exact attracts_of_readsBack hd
  · exact absurd (congrArg Decimal.exponent hshortest) h

/-- A finite number with few digits. No place of its decimal lies beyond that of `10 ^ -22`, and its
digits, with a zero behind the point of a whole number, make a number that a significand holds. Up
to fifteen digits do. -/
structure IsShort (x : Binary64) : Prop where
  finite : x.isFinite = true
  places : -22 ≤ x.shortest.exponent
  digits : x.shortest.digits * Nat.pow 10 (x.shortest.exponent + 1).toNat < Nat.pow 2 53

/-- The text of a short number denotes it. -/
theorem IsShort.exists_denotes (h : x.IsShort) (hx : x.significand ≠ 0) :
    ∃ s n k, x.compact = x.signed s ∧ (∀ negative, (Numeral.ofUnsigned negative s).Denotes n k) ∧
      0 < n ∧ n < Nat.pow 2 53 ∧ 0 < k ∧ k < 23 ∧
        (n / (Nat.pow 10 k : Nat) : ℚ) = x.shortest.value := by
  have hdigits := digits_shortest hx
  have hplaces := h.places
  have hbound := h.digits
  have hsize : Nat.pow 2 53 < UInt64.size := by decide
  have hpoint (hexponent : x.shortest.exponent < 0) : x.shortest.digits < Nat.pow 2 53 := by
    have hzero : (x.shortest.exponent + 1).toNat = 0 := by omega
    rw [hzero] at hbound
    exact Nat.lt_of_le_of_lt (Nat.le_mul_of_pos_right _ (by decide)) hbound
  rcases compact_cases h.finite with ⟨hleading, hs⟩ | ⟨hexponent, hs⟩ | ⟨hexponent, hs⟩
  · have hnegative : x.shortest.leading < 0 := by
      have hlt := Decimal.leading_lt hdigits hbound
      omega
    have hexponent : x.shortest.exponent < 0 := by
      have hlength : 0 < (Nat.toDigits 10 x.shortest.digits).length := Nat.length_toDigits_pos
      rw [Decimal.leading] at hnegative
      omega
    have hlt := hpoint hexponent
    exact ⟨_, _, _, hs, fun negative => Decimal.denotes_scientific negative hnegative (by omega),
      by omega, hlt, by omega, by omega, (Decimal.value_of_neg hexponent).symm⟩
  · have hpos : 0 < x.shortest.digits * Nat.pow 10 (x.shortest.exponent + 1).toNat :=
      Nat.mul_pos (by omega) (Nat.pow_pos (by decide))
    exact ⟨_, _, 1, hs, fun negative => Decimal.denotes_whole negative hexponent (by omega), hpos,
      hbound, by omega, by omega, (Decimal.value_of_nonneg hexponent).symm⟩
  · have hlt := hpoint hexponent
    exact ⟨_, _, _, hs, fun negative => Decimal.denotes_positional negative hexponent (by omega),
      by omega, hlt, by omega, by omega, (Decimal.value_of_neg hexponent).symm⟩

theorem signed_inj {s t : List Char} (h : x.signed s = x.signed t) : s = t := by
  have hlist := congrArg String.toList h
  rw [toList_signed, toList_signed] at hlist
  cases hnegative : x.negative with
  | true => simpa [hnegative] using hlist
  | false => simpa [hnegative] using hlist

theorem isZero_of_significand (h : x.significand = 0) : x.isZero = true := by
  have hscale : x.scale = 0 := by
    by_contra hne
    have hle := le_significand (x := x) (by omega)
    have hpos : 0 < Nat.pow 2 52 := by decide
    omega
  have hmagnitude := x.magnitude_eq
  rw [h, hscale, Nat.zero_mul] at hmagnitude
  exact decide_eq_true hmagnitude

/-- The text of a short number is read as that number, since only one quotient is rounded. -/
theorem rereads_of_isShort (h : x.IsShort) : x.Rereads := by
  by_cases hx : x.significand = 0
  · exact rereads_of_isZero (isZero_of_significand hx)
  · obtain ⟨s, n, k, hs, hdenotes, hpos, hn, hk, hplaces, hvalue⟩ := h.exists_denotes hx
    obtain ⟨t, ht, hdecimal⟩ := exists_isDecimal h.finite
    obtain rfl : s = t := signed_inj (hs.symm.trans ht)
    have hattracts := attracts_shortest hx (by have := h.places; omega)
    rw [← hvalue] at hattracts
    have hquotient := div_ofNat h.finite hx hpos hn hplaces hattracts
    have hdocument : (Numeral.ofUnsigned x.negative s).document = .float x := by
      rw [(hdenotes x.negative).document hpos hk hplaces, hquotient]
      exact congrArg Json.float x.magnitude_with_sign
    have hread := Json.ofText_compact h.finite
    rwa [Json.reread, if_pos h.finite, hs, ofText_signed hdecimal, hdocument, ← hs] at hread

end Binary64

end ResourceSync
