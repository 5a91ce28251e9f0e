import ResourceSync.Proofs.Numerals

/-! The decimals of doubles: digits with a point or a power of ten, behind a sign. -/
namespace ResourceSync

open Json (IsDecimal IsPointed IsWhole Numeral exists_head_toDigits isDigit
  isDigit_of_mem_replicate isDigit_of_mem_toDigits isWhole_toDigits)

namespace Decimal
variable {d : Decimal}

theorem digits_stripped {limit : Nat} (h : d.digits ≠ 0) : (d.stripped limit).digits ≠ 0 := by
  induction limit generalizing d with
  | zero => exact h
  | succ limit ih =>
    rw [stripped]
    split
    · next hzero => exact ih (by dsimp only; omega)
    · exact h

/-- No decimal of zero lies above a positive number. -/
theorem compareBinary_zero {n : Nat} {e : Int} (h : d.digits = 0) (hn : 0 < n) :
    d.compareBinary n e = .lt := by
  have hten : 0 < Nat.pow 10 (-d.exponent).toNat := Nat.pow_pos (by decide)
  have htwo : 0 < Nat.pow 2 e.toNat := Nat.pow_pos (by decide)
  rw [compareBinary, h, Nat.zero_mul, Nat.zero_mul, Nat.compare_eq_lt]
  exact Nat.mul_pos (Nat.mul_pos hn htwo) hten

theorem isWhole_positional (h : 0 ≤ d.exponent) (hd : d.digits = 0 → d.exponent = 0) :
    IsWhole d.positional := by
  rw [positional, if_pos h]
  by_cases hzero : d.digits = 0
  · rw [hzero, hd hzero]
    exact .zero
  · obtain ⟨c, cs, hcs, hc⟩ := exists_head_toDigits hzero
    have hdigits : ∀ c' ∈ c :: cs, isDigit c' = true := hcs ▸ fun _ => isDigit_of_mem_toDigits
    rw [hcs]
    exact .leading hc (List.forall_mem_append.2 ⟨hdigits, isDigit_of_mem_replicate⟩)

theorem isPointed_positional (h : d.exponent < 0) : IsPointed d.positional := by
  have hwhole := isWhole_toDigits d.digits
  have hdigits := hwhole.digits
  have hplaces : 0 < d.exponent.natAbs := by omega
  rw [positional, if_neg (by omega)]
  dsimp only
  split
  · next hlt =>
    refine IsPointed.append (hwhole.take hplaces hlt) ?_ ?_
    · exact List.ne_nil_of_length_pos (by rw [List.length_drop]; omega)
    · exact fun c hc => hdigits c (List.mem_of_mem_drop hc)
  · refine IsPointed.append (w := ['0']) .zero ?_ (List.forall_mem_append.2 ⟨?_, hdigits⟩)
    · exact List.append_ne_nil_of_right_ne_nil _ Nat.toDigits_ne_nil
    · exact isDigit_of_mem_replicate

theorem isDecimal_scientific (d : Decimal) : IsDecimal d.scientific := by
  obtain ⟨c, cs, hcs⟩ := List.exists_cons_of_ne_nil (Nat.toDigits_ne_nil (n := d.digits) (b := 10))
  obtain ⟨e, es, hes⟩ :=
    List.exists_cons_of_ne_nil (Nat.toDigits_ne_nil (n := d.leading.natAbs) (b := 10))
  have hdigits : ∀ c' ∈ c :: cs, isDigit c' = true := hcs ▸ fun _ => isDigit_of_mem_toDigits
  obtain ⟨hc, htail⟩ := List.forall_mem_cons.1 hdigits
  have hwhole : IsWhole [c] := by
    by_cases hzero : c = '0'
    · subst hzero
      exact .zero
    · exact .leading hzero (by simpa using hc)
  have hpower : ∀ c' ∈ e :: es, isDigit c' = true := hes ▸ fun _ => isDigit_of_mem_toDigits
  have hsign : (if d.leading < 0 then '-' else '+') = '+' ∨
      (if d.leading < 0 then '-' else '+') = '-' := by
    split
    · exact .inr rfl
    · exact .inl rfl
  have hfactor : IsWhole ([c] ++ if cs.isEmpty then [] else '.' :: cs) ∨
      IsPointed ([c] ++ if cs.isEmpty then [] else '.' :: cs) := by
    cases cs with
    | nil => exact .inl hwhole
    | cons c' cs => exact .inr (IsPointed.append hwhole nofun htail)
  simp only [scientific, hcs, hes, List.take_succ_cons, List.take_zero, List.drop_succ_cons,
    List.drop_zero]
  exact .power hfactor hsign hpower

end Decimal

namespace Binary64
variable {x : Binary64} {d : Decimal}

theorem digits_of_readsBack (hx : x.significand ≠ 0) (h : x.readsBack d = true) : d.digits ≠ 0 := by
  intro hd
  have hbelow {low : Nat} {e : Int} (hlow : 0 < low) : d.compareBinary low e = .lt :=
    Decimal.compareBinary_zero hd hlow
  simp only [readsBack] at h
  rw [hbelow] at h
  · simp at h
  · split <;> omega

theorem readsBack_of_onGrid {k : Int} {n : Nat} (h : x.onGrid k n = some d) :
    x.readsBack d = true := by
  unfold onGrid at h
  dsimp only at h
  split at h
  · next hdown hup =>
    split at h
    · cases h
      exact hdown
    · cases h
      exact hup
  · next hdown _ =>
    cases h
    exact hdown
  · next _ hup =>
    cases h
    exact hup
  · cases h

/-- The shortest decimal reads back, or else it is the number itself, with all of its digits. -/
theorem shortest_cases (hx : x.significand ≠ 0) :
    (∃ d, x.readsBack d = true ∧ x.shortest = d.stripped 20) ∨
      x.shortest = ⟨x.size * Nat.pow 5 1074, -1074⟩ := by
  rw [shortest, if_neg hx]
  dsimp only
  split
  · next d hd =>
    obtain ⟨i, -, hgrid⟩ := List.exists_of_findSome?_eq_some hd
    exact .inl ⟨d, readsBack_of_onGrid hgrid, rfl⟩
  · exact .inr rfl

theorem mul_pow_ne_zero {m b k : Nat} (hm : m ≠ 0) (hb : 0 < b) : m * Nat.pow b k ≠ 0 :=
  Nat.mul_ne_zero hm (Nat.ne_of_gt (Nat.pow_pos hb))

theorem digits_shortest (hx : x.significand ≠ 0) : x.shortest.digits ≠ 0 := by
  rcases shortest_cases hx with ⟨d, hd, hshortest⟩ | hshortest
  · rw [hshortest]
    exact Decimal.digits_stripped (digits_of_readsBack hx hd)
  · have hsize : x.size ≠ 0 := mul_pow_ne_zero hx (by decide)
    rw [hshortest]
    generalize 1074 = places
    exact mul_pow_ne_zero hsize (by decide)

/-- Only zero has the digit zero for its shortest decimal. -/
theorem exponent_shortest (h : x.shortest.digits = 0) : x.shortest.exponent = 0 := by
  by_cases hx : x.significand = 0
  · rw [shortest, if_pos hx]
  · exact absurd h (digits_shortest hx)

theorem toList_signed (x : Binary64) (s : List Char) :
    (x.signed s).toList = if x.negative then '-' :: s else s := String.toList_ofList

theorem mem_signed {c : Char} {s : List Char} (hc : c ≠ '-') : c ∈ (x.signed s).toList ↔ c ∈ s := by
  rw [toList_signed]
  split
  · simp [hc]
  · rfl

/-- The text of a finite number is its sign and its shortest decimal in one of three forms. -/
theorem compact_cases (hx : x.isFinite = true) :
    ((x.shortest.leading < -5 ∨ 16 ≤ x.shortest.leading) ∧
        x.compact = x.signed x.shortest.scientific) ∨
      (0 ≤ x.shortest.exponent ∧ x.compact = x.signed (x.shortest.positional ++ ['.', '0'])) ∨
      (x.shortest.exponent < 0 ∧ x.compact = x.signed x.shortest.positional) := by
  have hpositional : x.positional = x.signed x.shortest.positional := by
    have hnan : x.isNaN = false := by
      simp only [isFinite, isNaN, decide_eq_true_eq, decide_eq_false_iff_not] at hx ⊢
      omega
    simp [positional, hnan, hx]
  rw [compact]
  split
  · next hleading => exact .inl ⟨by simpa [hx] using hleading, rfl⟩
  · rw [withPoint, hpositional]
    by_cases hexponent : 0 ≤ x.shortest.exponent
    · have hwhole := Decimal.isWhole_positional hexponent exponent_shortest
      have hpoint : '.' ∉ (x.signed x.shortest.positional).toList := by
        rw [mem_signed (by decide)]
        exact fun h => absurd (hwhole.digits _ h) (by decide)
      refine .inr (.inl ⟨hexponent, ?_⟩)
      rw [if_pos (by simp [hx, hpoint])]
      refine String.toList_inj.1 ?_
      rw [String.toList_append, toList_signed, toList_signed]
      split <;> rfl
    · have hpointed := Decimal.isPointed_positional (d := x.shortest) (by omega)
      have hpoint : '.' ∈ (x.signed x.shortest.positional).toList := by
        rw [mem_signed (by decide)]
        exact hpointed.mem_point
      refine .inr (.inr ⟨by omega, ?_⟩)
      simp [hpoint]

/-- A finite number is written as a decimal behind its sign. -/
theorem exists_isDecimal (hx : x.isFinite = true) : ∃ s, x.compact = x.signed s ∧ IsDecimal s := by
  rcases compact_cases hx with ⟨-, h⟩ | ⟨hexponent, h⟩ | ⟨hexponent, h⟩
  · exact ⟨_, h, Decimal.isDecimal_scientific _⟩
  · have hwhole := Decimal.isWhole_positional hexponent exponent_shortest
    exact ⟨_, h, .pointed (.mk hwhole (List.forall_mem_singleton.2 rfl))⟩
  · exact ⟨_, h, .pointed (Decimal.isPointed_positional hexponent)⟩

theorem ofText_signed {s : List Char} (hs : IsDecimal s) :
    Numeral.ofText (x.signed s).toList = .ofUnsigned x.negative s := by
  obtain ⟨c, cs, rfl, hc⟩ := hs.exists_head
  rw [toList_signed]
  cases x.negative with
  | true => rfl
  | false => exact Numeral.ofText_of_digit hc cs

/-- The text of a finite number is read as a number again, or as none. -/
theorem document_compact (hx : x.isFinite = true) :
    (∃ y, (Numeral.ofText x.compact.toList).document = .float y) ∨
      ∃ e, (Numeral.ofText x.compact.toList).document = .unreadable e := by
  obtain ⟨s, hs, hdecimal⟩ := exists_isDecimal hx
  rw [hs, ofText_signed hdecimal]
  exact Json.document_of_not_isWhole (Numeral.isWhole_ofUnsigned hdecimal _)

end Binary64

end ResourceSync
