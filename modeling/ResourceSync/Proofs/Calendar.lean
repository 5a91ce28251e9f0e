import ResourceSync.Halt
import ResourceSync.Proofs.Timestamps

/-! What reads as a timestamp is a point of the calendar. Its own text reads again exactly if its
year is not negative. -/
namespace ResourceSync

namespace TimestampText
variable {α β : Type} {x : Reading α} {P : α → Prop} {Q : β → Prop} {s s' : List UInt8} {a : α}
  {b : β}

theorem run_bind_eq_ok_iff {f : α → Reading β} : (x >>= f).run s = .ok (b, s') ↔
    ∃ a s₁, x.run s = .ok (a, s₁) ∧ (f a).run s₁ = .ok (b, s') := by
  rw [StateT.run_bind, bind_eq_ok_iff]
  simp

/-- Every value that a step gives has a property. -/
def Gives (x : Reading α) (P : α → Prop) : Prop := ∀ s a s', x.run s = .ok (a, s') → P a

theorem gives_any : Gives x fun _ => True := fun _ _ _ _ => trivial

theorem gives_pure (h : P a) : Gives (pure a) P := by
  intro s a' s' hrun
  cases hrun
  exact h

theorem gives_throw {e : TimestampError} : Gives (throw e) P := by
  intro s a' s' hrun
  cases hrun

theorem Gives.bind {f : α → Reading β} (hx : Gives x P) (hf : ∀ a, P a → Gives (f a) Q) :
    Gives (x >>= f) Q := by
  intro s b s' hrun
  obtain ⟨a, s₁, ha, hb⟩ := run_bind_eq_ok_iff.1 hrun
  exact hf a (hx s a s₁ ha) s₁ b s' hb

theorem gives_ite {c : Prop} [Decidable c] {y : Reading α} (hx : c → Gives x P)
    (hy : ¬ c → Gives y P) : Gives (if c then x else y) P := by
  split
  · next h => exact hx h
  · next h => exact hy h

/-- A number that is read has digits only, and lies within the bounds of its part. -/
theorem of_run_number {part : TimestampPart} {n : Nat} (h : (number part).run s = .ok (n, s')) :
    (∀ b ∈ s.take part.digits, isDigit b = true) ∧ part.bounds.1 ≤ n ∧ n ≤ part.bounds.2 := by
  unfold number at h
  obtain ⟨s₁, s₂, hget, h⟩ := run_bind_eq_ok_iff.1 h
  cases hget
  dsimp only at h
  split at h
  · cases h
  · split at h
    · cases h
    · next hfind =>
      split at h
      · cases h
      · next hbounds =>
        cases h
        have hnone := List.find?_eq_none.1 (Option.eq_none_iff_forall_ne_some.2 hfind)
        exact ⟨by simpa using hnone, by omega, by omega⟩

theorem gives_number (part : TimestampPart) :
    Gives (number part) fun n => part.bounds.1 ≤ n ∧ n ≤ part.bounds.2 :=
  fun _ _ _ h => (of_run_number h).2

end TimestampText

namespace Timestamp
variable {t : Timestamp}

/-- A day of the calendar. -/
structure IsDate (t : Timestamp) : Prop where
  month : 1 ≤ t.month ∧ t.month ≤ 12
  day : 1 ≤ t.day ∧ t.day ≤ daysIn t.year t.month

theorem one_le_daysIn (year : Int) (month : Nat) : 1 ≤ daysIn year month := by
  unfold daysIn
  split_ifs <;> decide

theorem IsDate.nextDay (h : t.IsDate) : t.nextDay.IsDate := by
  obtain ⟨hmonth, hday⟩ := h
  unfold Timestamp.nextDay
  split
  · next hlt => exact ⟨hmonth, by dsimp only; omega⟩
  · split
    · next hlt => exact ⟨by dsimp only; omega, Nat.le_refl 1, one_le_daysIn ..⟩
    · exact ⟨by dsimp only; omega, Nat.le_refl 1, one_le_daysIn ..⟩

theorem IsDate.previousDay (h : t.IsDate) : t.previousDay.IsDate := by
  obtain ⟨hmonth, hday⟩ := h
  unfold Timestamp.previousDay
  split
  · next hlt => exact ⟨hmonth, by dsimp only; omega⟩
  · split
    · next hlt => exact ⟨by dsimp only; omega, one_le_daysIn .., Nat.le_refl _⟩
    · exact ⟨by dsimp only; omega, by dsimp only; omega, by simp [daysIn]⟩

theorem IsDate.repeat {f : Timestamp → Timestamp} (hf : ∀ t, t.IsDate → (f t).IsDate)
    (h : t.IsDate) (n : Nat) : (Nat.repeat f n t).IsDate := by
  induction n with
  | zero => exact h
  | succ n ih => exact hf _ ih

theorem IsDate.addDays (h : t.IsDate) (n : Int) : (t.addDays n).IsDate := by
  cases n with
  | ofNat n => exact h.repeat (fun _ => IsDate.nextDay) n
  | negSucc n => exact h.repeat (fun _ => IsDate.previousDay) (n + 1)

/-- A point in time of the calendar, within bounds. -/
structure IsPoint (t : Timestamp) : Prop where
  date : t.IsDate
  hour : t.hour < 24
  minute : t.minute < 60
  second : t.second < 60
  bounds : t.isInBounds = true

theorem IsPoint.isRegular (h : t.IsPoint) (hyear : 0 ≤ t.year) : t.IsRegular :=
  ⟨hyear, h.date.month, h.date.day, h.hour, h.minute, h.second, h.bounds⟩

theorem IsDate.ofOffset (h : t.IsDate) (ahead : Int) : (t.ofOffset ahead).IsDate :=
  ⟨(h.addDays _).month, (h.addDays _).day⟩

theorem isPoint_ofOffset (h : t.IsDate) {ahead : Int} (hbounds : (t.ofOffset ahead).isInBounds) :
    (t.ofOffset ahead).IsPoint := by
  refine ⟨h.ofOffset ahead, ?_, ?_, ?_, hbounds⟩ <;> simp only [Timestamp.ofOffset] <;> omega

end Timestamp

namespace TimestampText
open Timestamp

theorem gives_date : Gives date IsDate := by
  refine gives_any.bind fun year _ => gives_any.bind fun next _ => gives_any.bind fun _ _ => ?_
  refine (gives_number .month).bind fun month hmonth => gives_any.bind fun _ _ => ?_
  refine (gives_number .day).bind fun day hday => ?_
  refine gives_ite (fun _ => gives_throw.bind fun _ h => h) fun hle => ?_
  simp only [TimestampPart.bounds] at hmonth hday
  exact gives_pure ⟨by dsimp only; omega, by dsimp only; omega⟩

theorem gives_parts : Gives parts fun p => p.date.IsDate := by
  refine gives_date.bind fun date hdate => ?_
  refine gives_any.bind fun hasTime _ => ?_
  cases hasTime
  all_goals
    refine gives_any.bind fun clock _ => gives_any.bind fun placement _ => ?_
    refine gives_any.bind fun zone _ => gives_any.bind fun _ _ => gives_any.bind fun _ _ => ?_
    exact gives_pure hdate

/-- A hyphen that stands where a digit of a signed year is due. -/
theorem not_run_year {ds rest : List UInt8} (hds : ds.length ≤ 4) {r : Int × List UInt8} :
    year.run (Text.octet '-' :: (ds ++ Text.octet '-' :: rest)) ≠ .ok r := by
  intro h
  have hsign : sign?.run (Text.octet '-' :: (ds ++ Text.octet '-' :: rest)) =
      .ok (some true, ds ++ Text.octet '-' :: rest) := by
    rw [sign?, run_bind_of_ok (accept_of_false rfl)]
    exact run_bind_of_ok (accept_of_true rfl)
  rw [year, run_bind_of_ok hsign] at h
  obtain ⟨n, s, hnumber, -⟩ := run_bind_eq_ok_iff.1 h
  have hhyphen : Text.octet '-' ∈ (ds ++ Text.octet '-' :: rest).take 6 := by
    rw [List.take_append, List.mem_append]
    refine Or.inr ?_
    obtain ⟨k, hk⟩ : ∃ k, 6 - ds.length = k + 1 := ⟨5 - ds.length, by omega⟩
    rw [hk, List.take_succ_cons]
    exact List.mem_cons_self
  have hdigit := (of_run_number hnumber).1 _ hhyphen
  exact absurd hdigit (by decide)

end TimestampText

namespace Timestamp
variable {s : String} {t t' : Timestamp}

theorem isPoint_of_guarded {day : Timestamp} (hdate : day.IsDate) {ahead : Int}
    {e : TimestampError} (h : (if (day.ofOffset ahead).isInBounds then pure (day.ofOffset ahead)
      else .error e : Except TimestampError Timestamp) = .ok t) : t.IsPoint := by
  split at h
  · next hbounds =>
    cases h
    exact isPoint_ofOffset hdate hbounds
  · cases h

theorem isPoint_of_timestamp {p : TimestampText.Parts} (hp : p.date.IsDate)
    (h : p.timestamp = .ok t) : t.IsPoint := by
  unfold TimestampText.Parts.timestamp at h
  split at h
  · next clock _ =>
    have hday : (⟨p.date.year, p.date.month, p.date.day, clock.hour, clock.minute,
      clock.second⟩ : Timestamp).IsDate := ⟨hp.month, hp.day⟩
    dsimp only at h
    split at h
    · cases h
    · obtain ⟨ahead, -, h⟩ := bind_eq_ok_iff.1 h
      exact isPoint_of_guarded hday h
    · split at h
      · cases h
      · obtain ⟨ahead, -, h⟩ := bind_eq_ok_iff.1 h
        exact isPoint_of_guarded hday h
  · cases h

/-- What reads as a timestamp is a point in time. -/
theorem isPoint_of_ofText (h : ofText s = .ok t) : t.IsPoint := by
  obtain ⟨⟨p, rest⟩, hparts, h⟩ := bind_eq_ok_iff.1 h
  have hdate := TimestampText.gives_parts _ _ _ hparts
  dsimp only at h
  split at h
  · cases h
  · exact isPoint_of_timestamp hdate h

/-- The digits of a year before the year 0, which the text gives a sign. -/
def signedDigits (year : Int) : List Char :=
  List.replicate (3 - (Nat.toDigits 10 year.natAbs).length) '0' ++ Nat.toDigits 10 year.natAbs

theorem yearText_of_neg {year : Int} (h : year < 0) : yearText year = '-' :: signedDigits year :=
  if_pos h

theorem IsPoint.neg_le_year (h : t.IsPoint) : -9999 ≤ t.year := by
  have hbounds := h.bounds
  simp only [isInBounds, Bool.and_eq_true, decide_eq_true_eq] at hbounds
  have hearliest : earliest.rank = -321373000801 := by decide
  have hrank : earliest.rank ≤ t.rank := hbounds.1
  rw [hearliest, rank] at hrank
  have hmonth := h.date.month
  have hday := Nat.le_trans h.date.day.2 (daysIn_le t.year t.month)
  have hhour := h.hour
  have hminute := h.minute
  have hsecond := h.second
  omega

/-- A year before the year 0 is written in fewer digits than a signed year is read in. -/
theorem length_signedDigits_le {year : Int} (hneg : year < 0) (h : -9999 ≤ year) :
    (signedDigits year).length ≤ 4 := by
  have hlength : (Nat.toDigits 10 year.natAbs).length ≤ 4 := by
    refine (Nat.length_toDigits_le_iff (by decide) (by decide)).2 ?_
    omega
  simp only [signedDigits, List.length_append, List.length_replicate]
  omega

theorem toNat_le_of_mem_signedDigits {year : Int} {c : Char} (h : c ∈ signedDigits year) :
    c.toNat ≤ 127 := by
  rcases List.mem_append.1 h with h | h
  · obtain rfl := List.eq_of_mem_replicate h
    decide
  · have hdigit : c.isDigit = true := Nat.isDigit_of_mem_toDigits (by decide) (by decide) h
    simp only [Char.isDigit, Bool.and_eq_true, decide_eq_true_eq, UInt32.le_iff_toNat_le] at hdigit
    exact Nat.le_trans hdigit.2 (by decide)

/-- The hyphen behind a year before the year 0 stands where a digit of a signed year is due. -/
theorem octets_text_of_neg (h : t.year < 0) : ∃ rest, t.text.toUTF8.toList =
    Text.octet '-' :: ((signedDigits t.year).map Text.octet ++ Text.octet '-' :: rest) := by
  have htext : t.text = String.ofList ('-' :: signedDigits t.year ++ '-' :: padded 2 t.month ++
      '-' :: padded 2 t.day ++ 'T' :: padded 2 t.hour ++ ':' :: padded 2 t.minute ++
      ':' :: padded 2 t.second ++ ['Z']) := by
    rw [text, yearText_of_neg h]
  refine ⟨(padded 2 t.month ++ '-' :: padded 2 t.day ++ 'T' :: padded 2 t.hour ++
    ':' :: padded 2 t.minute ++ ':' :: padded 2 t.second ++ ['Z']).map Text.octet, ?_⟩
  rw [htext, octets_ofList]
  · simp
  · intro c hc
    simp only [List.append_assoc, List.cons_append, List.mem_append, List.mem_cons, List.not_mem_nil,
      or_false] at hc
    rcases hc with rfl | hc | rfl | hc | rfl | hc | rfl | hc | rfl | hc | rfl | hc | rfl
    · decide
    · exact toNat_le_of_mem_signedDigits hc
    all_goals first | exact toNat_le_of_mem_padded c hc | decide

/-- The text of a point before the year 0 is not read. -/
theorem ofText_text_ne (h : t.IsPoint) (hyear : t.year < 0) : ofText t.text ≠ .ok t' := by
  intro hread
  obtain ⟨rest, hoctets⟩ := octets_text_of_neg hyear
  obtain ⟨⟨p, left⟩, hparts, -⟩ := bind_eq_ok_iff.1 hread
  rw [hoctets] at hparts
  obtain ⟨date, s₁, hdate, -⟩ := TimestampText.run_bind_eq_ok_iff.1 hparts
  obtain ⟨year, s₂, hyearRead, -⟩ := TimestampText.run_bind_eq_ok_iff.1 hdate
  refine TimestampText.not_run_year ?_ hyearRead
  rw [List.length_map]
  exact length_signedDigits_le hyear h.neg_le_year

/-- What reads as a timestamp is read from its own text exactly if its year is not negative. -/
theorem ofText_text_iff (h : ofText s = .ok t) : ofText t.text = .ok t ↔ 0 ≤ t.year := by
  have hpoint := isPoint_of_ofText h
  refine ⟨?_, fun hyear => ofText_text (hpoint.isRegular hyear)⟩
  intro hread
  exact Int.not_lt.1 fun hyear => ofText_text_ne hpoint hyear hread

end Timestamp
end ResourceSync
