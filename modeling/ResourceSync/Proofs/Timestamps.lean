import Mathlib.Tactic.SplitIfs
import ResourceSync.Object.Timestamp.Parser

/-! The text of a timestamp reads back, unless its year is negative. -/
namespace ResourceSync

/-- The octet of a character of one octet. -/
def Text.octet (c : Char) : UInt8 := .ofNat c.toNat

section octets

theorem loop_toList (bytes : ByteArray) (i : Nat) (done : List UInt8) :
    ByteArray.toList.loop bytes i done = done.reverse ++ bytes.data.toList.drop i := by
  fun_induction ByteArray.toList.loop bytes i done with
  | case1 i done hi ih =>
    have hi : i < bytes.data.toList.length := by simpa using hi
    have hget : bytes.get! i = bytes.data.toList[i] := getElem!_pos bytes.data i hi
    rw [ih, List.drop_eq_getElem_cons hi, hget, List.reverse_cons, List.append_assoc]
    rfl
  | case2 i done hi =>
    rw [List.drop_of_length_le (by simpa using hi), List.append_nil]

theorem encodeChar_eq_octet {c : Char} (h : c.toNat ≤ 127) :
    String.utf8EncodeChar c = [Text.octet c] := if_pos h

/-- A text of such characters in octets. -/
theorem octets_ofList {l : List Char} (h : ∀ c ∈ l, c.toNat ≤ 127) :
    (String.ofList l).toUTF8.toList = l.map Text.octet := by
  have hencode : l.flatMap String.utf8EncodeChar = l.map Text.octet := by
    induction l with
    | nil => rfl
    | cons c l ih =>
      rw [List.flatMap_cons, encodeChar_eq_octet (h c List.mem_cons_self),
        ih fun c hc => h c (List.mem_cons_of_mem _ hc)]
      rfl
  rw [ByteArray.toList, loop_toList]
  change (l.flatMap String.utf8EncodeChar).toByteArray.data.toList = _
  rw [List.data_toByteArray, hencode]

end octets

namespace TimestampText
open Timestamp

theorem value_concat (ds : List UInt8) (b : UInt8) :
    value (ds ++ [b]) = value ds * 10 + (b.toNat - 48) := by
  simp [value]

theorem digit_facts : ∀ d < 10, (Text.octet (Nat.digitChar d)).toNat - 48 = d ∧
    isDigit (Text.octet (Nat.digitChar d)) = true := by decide

/-- A number in its digits. -/
def digits (places n : Nat) : List UInt8 := (padded places n).map Text.octet

theorem digits_succ (places n : Nat) : digits (places + 1) n =
    digits places (n / 10) ++ [Text.octet (Nat.digitChar (n % 10))] := by
  simp [digits, padded]

theorem length_digits (places n : Nat) : (digits places n).length = places := by
  induction places generalizing n with
  | zero => rfl
  | succ places ih => simp [digits_succ, ih]

theorem isDigit_of_mem_digits {places n : Nat} {b : UInt8} (h : b ∈ digits places n) :
    isDigit b = true := by
  induction places generalizing n with
  | zero => cases h
  | succ places ih =>
    rw [digits_succ, List.mem_append, List.mem_singleton] at h
    rcases h with h | rfl
    · exact ih h
    · exact (digit_facts _ (Nat.mod_lt _ (by decide))).2

theorem value_digits {places n : Nat} (h : n < Nat.pow 10 places) : value (digits places n) = n := by
  induction places generalizing n with
  | zero =>
    obtain rfl : n = 0 := Nat.lt_one_iff.1 h
    rfl
  | succ places ih =>
    have hn : n / 10 < Nat.pow 10 places := Nat.div_lt_of_lt_mul (Nat.mul_comm _ _ ▸ h)
    rw [digits_succ, value_concat, ih hn, (digit_facts _ (Nat.mod_lt _ (by decide))).1]
    omega

theorem number_digits (part : TimestampPart) {n : Nat} (rest : List UInt8)
    (hlow : part.bounds.1 ≤ n) (hhigh : n ≤ part.bounds.2) (hn : n < Nat.pow 10 part.digits) :
    (number part).run (digits part.digits n ++ rest) = .ok (n, rest) := by
  have hlength := length_digits part.digits n
  have htake : (digits part.digits n ++ rest).take part.digits = digits part.digits n := by
    rw [List.take_append_of_le_length (by omega), List.take_of_length_le (by omega)]
  have hdrop : (digits part.digits n ++ rest).drop part.digits = rest := by
    rw [List.drop_append_of_le_length (by omega), List.drop_of_length_le (by omega)]
    rfl
  have hfind : ((digits part.digits n).find? fun b => !isDigit b) = none := by
    rw [List.find?_eq_none]
    intro b hb
    simp [isDigit_of_mem_digits hb]
  have hvalue := value_digits hn
  have hbounds : ¬ ((n : Int) < part.bounds.1 ∨ part.bounds.2 < n) := by omega
  simp [number, htake, hdrop, hlength, hfind, hvalue, if_neg hbounds]
  rfl

section steps
variable {α β : Type} {isWanted : UInt8 → Bool} {b : UInt8} {rest s s' : List UInt8}

theorem run_bind_of_ok {x : Reading α} {a : α} {f : α → Reading β} (h : x.run s = .ok (a, s')) :
    (x >>= f).run s = (f a).run s' := by
  rw [StateT.run_bind, h]
  rfl

theorem accept_of_true (h : isWanted b = true) :
    (accept isWanted).run (b :: rest) = .ok (true, rest) := by
  simp [accept, h]
  rfl

theorem accept_of_false (h : isWanted b = false) :
    (accept isWanted).run (b :: rest) = .ok (false, b :: rest) := by
  simp [accept, h]
  rfl

theorem peek_run : peek.run s = .ok (s.head?, s) := rfl

theorem isOctet_of_isDigit {c : Char} (hb : isDigit b = true) (hc : c.toNat < 48 ∨ 57 < c.toNat) :
    isOctet c b = false := by
  simp only [isDigit, Bool.and_eq_true, decide_eq_true_eq] at hb
  simp only [isOctet, decide_eq_false_iff_not]
  omega

/-- A digit is no sign. -/
theorem sign?_of_isDigit (h : isDigit b = true) : sign?.run (b :: rest) = .ok (none, b :: rest) := by
  rw [sign?, run_bind_of_ok (accept_of_false (isOctet_of_isDigit h (by decide)))]
  exact run_bind_of_ok (accept_of_false (isOctet_of_isDigit h (by decide)))

theorem digits_head (places n : Nat) (h : 0 < places) :
    ∃ b bs, digits places n = b :: bs ∧ isDigit b = true := by
  have hlength := length_digits places n
  cases hd : digits places n with
  | nil => simp [hd] at hlength; omega
  | cons b bs => exact ⟨b, bs, rfl, isDigit_of_mem_digits (hd ▸ List.mem_cons_self)⟩

theorem year_digits {n : Nat} (h : n ≤ 9999) :
    year.run (digits 4 n ++ rest) = .ok ((n : Int), rest) := by
  obtain ⟨b, bs, hd, hb⟩ := digits_head 4 n (by decide)
  have hsign : sign?.run (digits 4 n ++ rest) = .ok (none, digits 4 n ++ rest) := by
    rw [hd]
    exact sign?_of_isDigit hb
  have hnumber : (number .year).run (digits 4 n ++ rest) = .ok (n, rest) :=
    number_digits .year rest (by simp only [TimestampPart.bounds]; omega)
      (by simp only [TimestampPart.bounds]; omega) (Nat.lt_succ_of_le h)
  rw [year, run_bind_of_ok hsign]
  exact run_bind_of_ok hnumber

/-- A hyphen where hyphens stand. -/
theorem hyphen_true (h : isOctet '-' b = true) :
    (hyphen true).run (b :: rest) = .ok ((), rest) := by
  rw [hyphen, run_bind_of_ok peek_run]
  exact run_bind_of_ok (accept_of_true h)

theorem number_two (part : TimestampPart) {n : Nat} (hdigits : part.digits = 2)
    (hlow : part.bounds.1 ≤ n) (hhigh : n ≤ part.bounds.2) (hn : n < 100) :
    (number part).run (digits 2 n ++ rest) = .ok (n, rest) := by
  have hnumber := number_digits part rest hlow hhigh (by rw [hdigits]; exact hn)
  rwa [hdigits] at hnumber

end steps

end TimestampText

namespace Timestamp
variable {t : Timestamp}

/-- A point in time in the calendar and within bounds, of no negative year. -/
structure IsRegular (t : Timestamp) : Prop where
  year : 0 ≤ t.year
  month : 1 ≤ t.month ∧ t.month ≤ 12
  day : 1 ≤ t.day ∧ t.day ≤ daysIn t.year t.month
  hour : t.hour < 24
  minute : t.minute < 60
  second : t.second < 60
  bounds : t.isInBounds = true

theorem daysIn_le (year : Int) (month : Nat) : daysIn year month ≤ 31 := by
  unfold daysIn
  split_ifs <;> decide

theorem IsRegular.year_le (h : t.IsRegular) : t.year ≤ 9999 := by
  have hbounds := h.bounds
  simp only [isInBounds, Bool.and_eq_true, decide_eq_true_eq] at hbounds
  have hlatest : latest.rank = 321410671200 := by decide
  have hrank : t.rank ≤ latest.rank := hbounds.2
  rw [hlatest, rank] at hrank
  have hmonth := h.month
  omega

open TimestampText

theorem date_digits {rest : List UInt8} (h : t.IsRegular) :
    date.run (digits 4 t.year.toNat ++ Text.octet '-' :: (digits 2 t.month ++
        Text.octet '-' :: (digits 2 t.day ++ rest))) =
      .ok (⟨t.year, t.month, t.day, 0, 0, 0⟩, rest) := by
  have hyear : (t.year.toNat : Int) = t.year := Int.toNat_of_nonneg h.year
  have hle := h.year_le
  obtain ⟨hmonth, hmonth'⟩ := h.month
  obtain ⟨hday, hday'⟩ := h.day
  have hday'' := Nat.le_trans hday' (daysIn_le t.year t.month)
  rw [date, run_bind_of_ok (year_digits (by omega)), run_bind_of_ok peek_run, hyear]
  refine (run_bind_of_ok (hyphen_true rfl)).trans ?_
  refine (run_bind_of_ok (number_two .month rfl ?_ ?_ ?_)).trans ?_
  · simp only [TimestampPart.bounds]; omega
  · simp only [TimestampPart.bounds]; omega
  · omega
  refine (run_bind_of_ok (hyphen_true rfl)).trans ?_
  refine (run_bind_of_ok (number_two .day rfl ?_ ?_ ?_)).trans ?_
  · simp only [TimestampPart.bounds]; omega
  · simp only [TimestampPart.bounds]; omega
  · omega
  dsimp only
  rw [if_neg (by omega)]
  rfl

theorem clock_digits (h : t.IsRegular) :
    clock.run (digits 2 t.hour ++ Text.octet ':' :: (digits 2 t.minute ++
        Text.octet ':' :: (digits 2 t.second ++ [Text.octet 'Z']))) =
      .ok (⟨t.hour, t.minute, t.second, []⟩, [Text.octet 'Z']) := by
  have hhour := h.hour
  have hminute := h.minute
  have hsecond := h.second
  have hcolon (rest : List UInt8) : startsWithColon.run (Text.octet ':' :: rest) =
      .ok (true, Text.octet ':' :: rest) := rfl
  have hmore (rest : List UInt8) : (continues true).run (Text.octet ':' :: rest) =
      .ok (true, rest) := accept_of_true rfl
  have hwhole : fraction.run [Text.octet 'Z'] = .ok ([], [Text.octet 'Z']) := rfl
  rw [clock]
  refine (run_bind_of_ok (number_two .hour rfl ?_ ?_ ?_)).trans ?_
  · simp only [TimestampPart.bounds]; omega
  · simp only [TimestampPart.bounds]; omega
  · omega
  rw [run_bind_of_ok (hcolon _), run_bind_of_ok (hmore _)]
  refine (run_bind_of_ok (number_two .minute rfl ?_ ?_ ?_)).trans ?_
  · simp only [TimestampPart.bounds]; omega
  · simp only [TimestampPart.bounds]; omega
  · omega
  rw [run_bind_of_ok (hmore _)]
  refine (run_bind_of_ok (number_two .second rfl ?_ ?_ ?_)).trans ?_
  · simp only [TimestampPart.bounds]; omega
  · simp only [TimestampPart.bounds]; omega
  · omega
  rw [run_bind_of_ok hwhole, Nat.min_eq_left (by omega)]
  rfl

/-- A point in time on clocks that are not ahead is the same point. -/
theorem ofOffset_zero (h : t.IsRegular) : t.ofOffset 0 = t := by
  have hhour := h.hour
  have hminute := h.minute
  have hsecond := h.second
  obtain ⟨year, month, day, hour, minute, second⟩ := t
  simp only at hhour hminute hsecond
  have hfdiv : Int.fdiv ((hour * 60 + minute) * 60 + second - 0) 86400 = 0 := by
    rw [Int.fdiv_eq_ediv_of_nonneg _ (by decide)]
    omega
  simp only [ofOffset, hfdiv]
  simp only [addDays, Nat.repeat, mk.injEq, true_and]
  omega

theorem digitChar_toNat_le : ∀ d < 10, (Nat.digitChar d).toNat ≤ 127 := by decide

theorem toNat_le_of_mem_padded {places n : Nat} : ∀ c ∈ padded places n, c.toNat ≤ 127 := by
  induction places generalizing n with
  | zero => intro c hc; cases hc
  | succ places ih =>
    intro c hc
    rw [padded, List.mem_append, List.mem_singleton] at hc
    rcases hc with hc | rfl
    · exact ih c hc
    · exact digitChar_toNat_le _ (Nat.mod_lt _ (by decide))

theorem octets_text (h : t.IsRegular) : t.text.toUTF8.toList =
    digits 4 t.year.toNat ++ Text.octet '-' :: (digits 2 t.month ++ Text.octet '-' ::
      (digits 2 t.day ++ Text.octet 'T' :: (digits 2 t.hour ++ Text.octet ':' ::
        (digits 2 t.minute ++ Text.octet ':' :: (digits 2 t.second ++ [Text.octet 'Z']))))) := by
  have hyear : yearText t.year = padded 4 t.year.toNat := if_neg (by have := h.year; omega)
  rw [text, hyear, octets_ofList]
  · simp [digits]
  · intro c hc
    simp only [List.append_assoc, List.cons_append, List.mem_append, List.mem_cons, List.not_mem_nil,
      or_false] at hc
    rcases hc with hc | rfl | hc | rfl | hc | rfl | hc | rfl | hc | rfl | hc | rfl <;>
      first | exact toNat_le_of_mem_padded c hc | decide

theorem parts_octets (h : t.IsRegular) : parts.run t.text.toUTF8.toList =
    .ok (⟨⟨t.year, t.month, t.day, 0, 0, 0⟩, some ⟨t.hour, t.minute, t.second, []⟩, .utc, none⟩,
      []) := by
  have htime (rest : List UInt8) : (accept fun b => isOctet 'T' b || isOctet 't' b ||
      isOctet ' ' b).run (Text.octet 'T' :: rest) = .ok (true, rest) := accept_of_true rfl
  have hutc : placement.run [Text.octet 'Z'] = .ok (.utc, []) := rfl
  have hclock : (do return some (← clock) : Reading (Option Clock)).run
      (digits 2 t.hour ++ Text.octet ':' :: (digits 2 t.minute ++
        Text.octet ':' :: (digits 2 t.second ++ [Text.octet 'Z']))) =
      .ok (some ⟨t.hour, t.minute, t.second, []⟩, [Text.octet 'Z']) := by
    rw [run_bind_of_ok (clock_digits h)]
    rfl
  rw [octets_text h, parts, run_bind_of_ok (date_digits h), run_bind_of_ok (htime _)]
  dsimp only
  rw [if_pos rfl, run_bind_of_ok hclock, if_pos rfl, run_bind_of_ok hutc]
  rfl

/-- What is written of a point in time reads back. -/
theorem ofText_text (h : t.IsRegular) : ofText t.text = .ok t := by
  have htimestamp : (⟨⟨t.year, t.month, t.day, 0, 0, 0⟩, some ⟨t.hour, t.minute, t.second, []⟩, .utc,
      none⟩ : Parts).timestamp = .ok t := by
    change (if (t.ofOffset 0).isInBounds then pure (t.ofOffset 0) else _) = _
    rw [ofOffset_zero h, if_pos h.bounds]
    rfl
  simp only [ofText, parts_octets h, bind, Except.bind]
  exact htimestamp

end Timestamp

end ResourceSync
