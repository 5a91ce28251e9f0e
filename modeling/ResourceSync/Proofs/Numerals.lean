import Mathlib.Data.List.TakeDrop
import ResourceSync.Json.Reader

/-! The texts of numbers are numerals: those of whole numbers read back, and those with a point or a
power of ten are never taken for whole numbers. -/
namespace ResourceSync.Json

variable {n value : Nat} {i : Int} {c : Char} {s w : List Char}

section digits

theorem isDigit_of_mem_toDigits (h : c ∈ Nat.toDigits 10 n) : isDigit c = true := by
  have hdigit := Nat.isDigit_of_mem_toDigits (by decide) (by decide) h
  simpa [Char.isDigit, isDigit, Char.le_def] using hdigit

theorem isDigit_of_mem_replicate {n : Nat} : ∀ c ∈ List.replicate n '0', isDigit c = true := by
  intro c hc
  rw [List.eq_of_mem_replicate hc]
  decide

/-- Digits, the first of which is no zero unless it stands alone. -/
inductive IsWhole : List Char → Prop where
  | zero : IsWhole ['0']
  | leading {c : Char} {cs : List Char} (hzero : c ≠ '0')
    (hdigits : ∀ d ∈ c :: cs, isDigit d = true) : IsWhole (c :: cs)

theorem IsWhole.digits (h : IsWhole w) : ∀ c ∈ w, isDigit c = true := by
  cases h with
  | zero => exact List.forall_mem_singleton.2 rfl
  | leading _ hdigits => exact hdigits

/-- The digits before a point that cuts off some of them. -/
theorem IsWhole.take (h : IsWhole w) {places : Nat} (hlow : 0 < places)
    (hhigh : places < w.length) : IsWhole (w.take (w.length - places)) := by
  cases h with
  | zero =>
    simp only [List.length_singleton] at hhigh
    omega
  | @leading c cs hzero hdigits =>
    simp only [List.length_cons] at hhigh ⊢
    obtain ⟨k, hk⟩ : ∃ k, cs.length + 1 - places = k + 1 := ⟨cs.length - places, by omega⟩
    rw [hk, List.take_succ_cons]
    refine .leading hzero (List.forall_mem_cons.2 ⟨hdigits c List.mem_cons_self, ?_⟩)
    intro c' hc'
    exact hdigits c' (List.mem_cons_of_mem c (List.mem_of_mem_take hc'))

theorem IsWhole.exists_head (h : IsWhole w) : ∃ c cs, w = c :: cs ∧ isDigit c = true := by
  cases h with
  | zero => exact ⟨_, _, rfl, by decide⟩
  | leading _ hdigits => exact ⟨_, _, rfl, hdigits _ List.mem_cons_self⟩

theorem exists_head_toDigits (hn : n ≠ 0) : ∃ c cs, Nat.toDigits 10 n = c :: cs ∧ c ≠ '0' := by
  induction n using Nat.strongRecOn with
  | _ n ih =>
    rw [Nat.toDigits_eq_if (by decide)]
    split
    · next hlt =>
      have hdigit : ∀ d < 10, d ≠ 0 → Nat.digitChar d ≠ '0' := by decide
      exact ⟨_, [], rfl, hdigit n hlt hn⟩
    · next hle =>
      obtain ⟨c, cs, hcs, hc⟩ := ih (n / 10) (by omega) (by omega)
      exact ⟨c, cs ++ [(n % 10).digitChar], by rw [hcs, List.cons_append], hc⟩

theorem isWhole_toDigits (n : Nat) : IsWhole (Nat.toDigits 10 n) := by
  by_cases hn : n = 0
  · subst hn
    exact .zero
  · obtain ⟨c, cs, hcs, hc⟩ := exists_head_toDigits hn
    have hdigits : ∀ d ∈ c :: cs, isDigit d = true := hcs ▸ fun _ => isDigit_of_mem_toDigits
    rw [hcs]
    exact .leading hc hdigits

end digits

section shapes

/-- A whole number, a point and more digits. -/
inductive IsPointed : List Char → Prop where
  | mk {w : List Char} {d : Char} {f : List Char} (whole : IsWhole w)
    (digits : ∀ c ∈ d :: f, isDigit c = true) : IsPointed (w ++ '.' :: d :: f)

theorem IsPointed.mem_point (h : IsPointed s) : '.' ∈ s := by
  cases h
  simp

theorem IsPointed.append {f : List Char} (hw : IsWhole w) (hf : f ≠ [])
    (hdigits : ∀ c ∈ f, isDigit c = true) : IsPointed (w ++ '.' :: f) := by
  obtain ⟨c, cs, rfl⟩ := List.exists_cons_of_ne_nil hf
  exact .mk hw hdigits

/-- A number with a point or a power of ten. -/
inductive IsDecimal : List Char → Prop where
  | pointed {s : List Char} (h : IsPointed s) : IsDecimal s
  | power {m : List Char} {sign d : Char} {e : List Char} (factor : IsWhole m ∨ IsPointed m)
    (isSign : sign = '+' ∨ sign = '-') (digits : ∀ c ∈ d :: e, isDigit c = true) :
    IsDecimal (m ++ 'e' :: sign :: d :: e)

theorem IsPointed.exists_head (h : IsPointed s) : ∃ c cs, s = c :: cs ∧ isDigit c = true := by
  cases h with
  | mk whole _ =>
    obtain ⟨c, cs, rfl, hc⟩ := whole.exists_head
    exact ⟨c, _, rfl, hc⟩

theorem IsDecimal.exists_head (h : IsDecimal s) : ∃ c cs, s = c :: cs ∧ isDigit c = true := by
  cases h with
  | pointed h => exact h.exists_head
  | power factor _ _ =>
    obtain ⟨c, cs, rfl, hc⟩ := factor.elim IsWhole.exists_head IsPointed.exists_head
    exact ⟨c, _, rfl, hc⟩

namespace NumeralPlace
variable {place place' : NumeralPlace}

/-- The place after some more characters of a numeral. -/
def follow? (place : NumeralPlace) (cs : List Char) : Option NumeralPlace := cs.foldlM next? place

theorem follow?_cons {cs : List Char} (h : place.next? c = some place') :
    place.follow? (c :: cs) = place'.follow? cs := by
  rw [follow?, List.foldlM_cons, h]
  rfl

theorem follow?_append {cs : List Char} (h : place.follow? s = some place') :
    place.follow? (s ++ cs) = place'.follow? cs := by
  rw [follow?, List.foldlM_append]
  change (place.follow? s >>= _) = _
  rw [h]
  rfl

/-- A place that digits do not move on from. -/
theorem follow?_digits (hplace : ∀ c, isDigit c = true → place.next? c = some place)
    (hs : ∀ c ∈ s, isDigit c = true) : place.follow? s = some place := by
  induction s with
  | nil => rfl
  | cons c s ih =>
    obtain ⟨hc, hs⟩ := List.forall_mem_cons.1 hs
    rw [follow?_cons (hplace c hc), ih hs]

theorem next?_whole (h : isDigit c = true) : whole.next? c = some whole := by simp [next?, h]

theorem next?_fraction (h : isDigit c = true) : fraction.next? c = some fraction := by
  simp [next?, h]

theorem next?_exponent (h : isDigit c = true) : exponent.next? c = some exponent := by
  simp [next?, h]

theorem follow?_whole (h : IsWhole w) :
    sign.follow? w = some zero ∨ sign.follow? w = some whole := by
  cases h with
  | zero => exact .inl rfl
  | @leading c cs hzero hdigits =>
    obtain ⟨hc, hcs⟩ := List.forall_mem_cons.1 hdigits
    have hnext : sign.next? c = some whole := by simp [next?, hzero, hc]
    rw [follow?_cons hnext]
    exact .inr (follow?_digits (fun _ => next?_whole) hcs)

theorem follow?_pointed (h : IsPointed s) : sign.follow? s = some fraction := by
  cases h with
  | @mk w d f hwhole hdigits =>
    obtain ⟨hd, hf⟩ := List.forall_mem_cons.1 hdigits
    have hpoint : point.follow? (d :: f) = some fraction := by
      rw [follow?_cons (show point.next? d = some fraction by simp [next?, hd])]
      exact follow?_digits (fun _ => next?_fraction) hf
    rcases follow?_whole hwhole with h | h
    · rw [follow?_append h, follow?_cons rfl, hpoint]
    · rw [follow?_append h, follow?_cons rfl, hpoint]

theorem follow?_decimal (h : IsDecimal s) :
    ∃ place, sign.follow? s = some place ∧ place.isEnd = true := by
  cases h with
  | pointed h => exact ⟨fraction, follow?_pointed h, rfl⟩
  | @power m _ d e hfactor hsign hdigits =>
    obtain ⟨hd, he⟩ := List.forall_mem_cons.1 hdigits
    have hexponent : markSign.follow? (d :: e) = some exponent := by
      rw [follow?_cons (show markSign.next? d = some exponent by simp [next?, hd])]
      exact follow?_digits (fun _ => next?_exponent) he
    have hmark : ∃ place, sign.follow? m = some place ∧ place.next? 'e' = some mark := by
      rcases hfactor with hwhole | hpointed
      · rcases follow?_whole hwhole with h | h
        · exact ⟨zero, h, rfl⟩
        · exact ⟨whole, h, rfl⟩
      · exact ⟨fraction, follow?_pointed hpointed, rfl⟩
    obtain ⟨place, hm, hnext⟩ := hmark
    refine ⟨exponent, ?_, rfl⟩
    rw [follow?_append hm, follow?_cons hnext]
    rcases hsign with rfl | rfl
    · rw [follow?_cons rfl, hexponent]
    · rw [follow?_cons rfl, hexponent]

end NumeralPlace

end shapes

namespace Numeral

theorem span_isDigit (hw : ∀ c ∈ w, isDigit c = true) {r : List Char}
    (hr : ∀ c ∈ r.head?, isDigit c = false) : (w ++ r).span isDigit = (w, r) := by
  have hnone : r.takeWhile isDigit = [] ∧ r.dropWhile isDigit = r := by
    cases r with
    | nil => exact ⟨rfl, rfl⟩
    | cons c r => simp [hr c rfl]
  rw [List.span_eq_takeWhile_dropWhile, List.takeWhile_append_of_pos hw,
    List.dropWhile_append_of_pos hw, hnone.1, hnone.2, List.append_nil]

theorem ofText_of_digit (hc : isDigit c = true) (s : List Char) :
    ofText (c :: s) = ofUnsigned false (c :: s) := by
  unfold ofText
  split
  · next heq =>
    cases heq
    exact absurd hc (by decide)
  · rfl

variable {f r : List Char}

theorem fractionOf_eq (hf : ∀ c ∈ f, isDigit c = true)
    (hr : ∀ c ∈ r.head?, isDigit c = false ∧ c ≠ '.') :
    fractionOf ((if f.isEmpty then [] else '.' :: f) ++ r) = (f, r) := by
  cases f with
  | nil =>
    cases r with
    | nil => rfl
    | cons c r =>
      have hpoint := (hr c rfl).2
      simp only [List.isEmpty_nil, if_true, List.nil_append]
      unfold fractionOf
      split
      · next heq =>
        cases heq
        exact absurd rfl hpoint
      · rfl
  | cons c f => exact span_isDigit hf fun c hc => (hr c hc).1

/-- The parts of a numeral stand as they are in its text. -/
theorem ofUnsigned_eq (negative : Bool) (hw : ∀ c ∈ w, isDigit c = true)
    (hf : ∀ c ∈ f, isDigit c = true) (hr : ∀ c ∈ r.head?, isDigit c = false ∧ c ≠ '.') :
    ofUnsigned negative (w ++ ((if f.isEmpty then [] else '.' :: f) ++ r)) =
      ⟨negative, w, f, (exponentOf (r.drop 1)).1, (exponentOf (r.drop 1)).2,
        f.isEmpty && r.isEmpty⟩ := by
  have hhead : ∀ c ∈ ((if f.isEmpty then [] else '.' :: f) ++ r).head?, isDigit c = false := by
    cases f with
    | nil => exact fun c hc => (hr c hc).1
    | cons d f =>
      rintro c ⟨⟩
      decide
  simp only [ofUnsigned, span_isDigit hw hhead, fractionOf_eq hf hr]

theorem ofUnsigned_whole (h : IsWhole w) (negative : Bool) :
    ofUnsigned negative w = ⟨negative, w, [], false, [], true⟩ := by
  have hparts := ofUnsigned_eq negative h.digits (f := []) (r := []) nofun nofun
  simpa [exponentOf] using hparts

theorem isWhole_ofUnsigned (h : IsDecimal s) (negative : Bool) :
    (ofUnsigned negative s).isWhole = false := by
  have hmark {r : List Char} : ∀ c ∈ ('e' :: r).head?, isDigit c = false ∧ c ≠ '.' := by
    rintro c ⟨⟩
    exact ⟨rfl, by decide⟩
  cases h with
  | pointed h =>
    cases h with
    | @mk w d f hwhole hdigits =>
      have hparts := ofUnsigned_eq negative hwhole.digits hdigits (r := []) nofun
      rw [List.append_nil] at hparts
      exact congrArg isWhole hparts
  | power hfactor _ _ =>
    rcases hfactor with hwhole | hpointed
    · exact congrArg isWhole (ofUnsigned_eq negative hwhole.digits (f := []) nofun hmark)
    · cases hpointed with
      | @mk w d f hwhole hdigits =>
        rw [List.append_assoc]
        exact congrArg isWhole (ofUnsigned_eq negative hwhole.digits hdigits hmark)

end Numeral

theorem le_ofDigitChars (s : List Char) (value : Nat) : value ≤ Nat.ofDigitChars 10 s value := by
  induction s generalizing value with
  | nil => exact Nat.le_refl _
  | cons c s ih => exact Nat.le_trans (by omega) (ih (10 * value + (c.toNat - '0'.toNat)))

theorem leadingDigits_eq (h : Nat.ofDigitChars 10 s value < UInt64.size) :
    leadingDigits value s = (Nat.ofDigitChars 10 s value, 0) := by
  induction s generalizing value with
  | nil => rfl
  | cons c s ih =>
    have hnext : value * 10 + digitValue c = 10 * value + (c.toNat - '0'.toNat) := by
      rw [Nat.mul_comm, digitValue]
    have hlt := Nat.lt_of_le_of_lt (le_ofDigitChars s (10 * value + (c.toNat - '0'.toNat))) h
    rw [leadingDigits, hnext, if_pos hlt, ih h]
    rfl

theorem leadingDigits_toDigits (h : n < UInt64.size) :
    leadingDigits 0 (Nat.toDigits 10 n) = (n, 0) := by
  have hvalue : Nat.ofDigitChars 10 (Nat.toDigits 10 n) 0 = n :=
    Nat.ofDigitChars_toDigits (by decide) (by decide)
  rw [leadingDigits_eq (by rwa [hvalue]), hvalue]

/-- The text of a whole number of 64 bits is read as that number. -/
theorem document_toString (hlow : -9223372036854775808 ≤ i) (hhigh : i < 18446744073709551616) :
    (Numeral.ofText (toString i).toList).document = .int i := by
  have hpow : Nat.pow 2 63 = 9223372036854775808 := rfl
  have hsize : UInt64.size = 18446744073709551616 := rfl
  have hdigits {n : Nat} (hn : n < UInt64.size) (negative : Bool) :
      (Numeral.ofUnsigned negative (Nat.toDigits 10 n)).value =
        (⟨negative, Nat.toDigits 10 n, [], false, [], true⟩ : Numeral).value ∧
      leadingDigits 0 (Nat.toDigits 10 n) = (n, 0) :=
    ⟨by rw [Numeral.ofUnsigned_whole (isWhole_toDigits n)], leadingDigits_toDigits hn⟩
  rw [Int.toString_eq_repr, Int.repr_eq_if]
  split
  · next hpos =>
    obtain ⟨n, rfl⟩ := Int.eq_ofNat_of_zero_le hpos
    obtain ⟨hvalue, hlead⟩ := hdigits (n := n) (by omega) false
    have htext : Numeral.ofText (Nat.toDigits 10 n) = .ofUnsigned false (Nat.toDigits 10 n) := by
      obtain ⟨c, cs, hcs⟩ := List.exists_cons_of_ne_nil (Nat.toDigits_ne_nil (n := n) (b := 10))
      have hc : isDigit c = true := isDigit_of_mem_toDigits (n := n) (hcs ▸ List.mem_cons_self)
      rw [hcs, Numeral.ofText_of_digit hc]
    rw [Int.toNat_natCast, Nat.toList_repr, htext, Numeral.document, hvalue, Numeral.value, hlead]
    rfl
  · next hneg =>
    obtain ⟨hvalue, hlead⟩ := hdigits (n := (-i).toNat) (by omega) true
    have htext : Numeral.ofText ("-" ++ (-i).toNat.repr).toList =
        .ofUnsigned true (Nat.toDigits 10 (-i).toNat) := by
      rw [String.toList_append, Nat.toList_repr]
      rfl
    have hin : 0 < (-i).toNat ∧ (-i).toNat ≤ Nat.pow 2 63 := by omega
    rw [htext, Numeral.document, hvalue, Numeral.value, hlead]
    simp [hin, Int.toNat_of_nonneg (show 0 ≤ -i by omega)]

/-- A numeral that is no whole number is read as a double, or not at all. -/
theorem document_of_not_isWhole {n : Numeral} (h : n.isWhole = false) :
    (∃ x, n.document = .float x) ∨ ∃ e, n.document = .unreadable e := by
  have hvalue : n.value = (n.rounded.map fun x => Json.float (if n.negative then x.neg else x)).elim
      (.error .numberOutOfRange) .ok := by
    simp only [Numeral.value, h, Bool.false_and, Bool.false_eq_true, if_false]
    cases n.rounded <;> rfl
  rw [Numeral.document, hvalue]
  cases n.rounded with
  | some x => exact .inl ⟨_, rfl⟩
  | none => exact .inr ⟨_, rfl⟩

end ResourceSync.Json
