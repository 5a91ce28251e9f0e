import ResourceSync.Proofs.Cutting
import ResourceSync.Proofs.Durations

/-! The notation of durations: amounts one after another, each a number with its unit. A text comes
apart into amounts in one way only. It is read exactly if it does and the amounts fit their words. -/
namespace ResourceSync

theorem TimeUnit.symbol_inj {u v : TimeUnit} (h : u.symbol = v.symbol) : u = v := by
  have hu := ofSymbol?_eq_some_iff.2 h
  rw [ofSymbol?_eq_some_iff.2 rfl] at hu
  exact (Option.some.inj hu).symm

theorem TimeUnit.unbroken_symbol (u : TimeUnit) : Text.Unbroken u.symbol :=
  Text.unbroken_of_any (by cases u <;> rfl)

namespace Duration
variable {s : String} {d d' : Duration} {r r' : List Char}

theorem toNat_of_isDigit {c : Char} (h : isDigit c = true) : 48 ≤ c.toNat ∧ c.toNat ≤ 57 := by
  simpa [isDigit, Char.le_def, UInt32.le_iff_toNat_le] using h

theorem isBlank_of_isDigit {c : Char} (h : isDigit c = true) : Text.isBlank c = false := by
  have hc := toNat_of_isDigit h
  simp [Text.isBlank]
  omega

theorem inRange_ofMillis_iff {n : Nat} : (ofMillis n).inRange = true ↔ n < UInt64.size * 1000 := by
  have hnanos : (ofMillis n).nanoseconds = n * 1000000 := rfl
  unfold inRange wholeSeconds second UInt64.size
  rw [decide_eq_true_eq, hnanos]
  omega

/-- A number with its unit, however large the number is. -/
@[ext]
structure Amount where
  digits : List Char
  unit : TimeUnit
  ne_nil : digits ≠ []
  isNumber : digits.all isDigit = true

namespace Amount
variable {a b : Amount}

def text (a : Amount) : List Char := a.digits ++ a.unit.symbol

def number (a : Amount) : Nat := digitsValue a.digits

def millis (a : Amount) : Nat := a.number * a.unit.millis

/-- The number fits its word, and so do the milliseconds that it stands for. -/
structure FitsWords (a : Amount) : Prop where
  number_lt : a.number < UInt64.size
  millis_lt : a.millis < UInt64.size

theorem exists_head (a : Amount) : ∃ c r, a.text = c :: r ∧ isDigit c = true :=
  exists_digit a.ne_nil a.isNumber a.unit.symbol

theorem unbroken_text (a : Amount) : Text.Unbroken a.text := by
  intro c hc
  rcases List.mem_append.1 hc with hc | hc
  · exact isBlank_of_isDigit (List.all_eq_true.1 a.isNumber c hc)
  · exact a.unit.unbroken_symbol c hc

/-- What stands before the next amount is one amount only. -/
theorem text_append_inj (hr : AtPart r) (hr' : AtPart r') (h : a.text ++ r = b.text ++ r') :
    a = b ∧ r = r' := by
  obtain ⟨hdigits, hrest⟩ := span_digits a.isNumber a.unit r
  obtain ⟨hdigits', hrest'⟩ := span_digits b.isNumber b.unit r'
  have hsame : a.digits ++ a.unit.symbol ++ r = b.digits ++ b.unit.symbol ++ r' := h
  -- The first run of digits is one text only, and so is the run of other characters behind it.
  rw [hsame, hdigits'] at hdigits
  rw [hsame, hrest'] at hrest
  have hsymbol := (span_symbol a.unit hr).1
  have hend := (span_symbol a.unit hr).2
  rw [← hrest, (span_symbol b.unit hr').1] at hsymbol
  rw [← hrest, (span_symbol b.unit hr').2] at hend
  exact ⟨Amount.ext hdigits.symm (TimeUnit.symbol_inj hsymbol.symm), hend.symm⟩

end Amount

variable {as bs : List Amount}

/-- Amounts, one after another. -/
def written (as : List Amount) : List Char := as.flatMap Amount.text

def total : List Amount → Nat
  | [] => 0
  | a :: as => a.millis + total as

/-- Blanks aside, a text is made of some amounts, and each of them fits its words. -/
structure Writes (s : String) (as : List Amount) : Prop where
  ne_nil : as ≠ []
  text : Text.trim s.toList = written as
  fits : ∀ a ∈ as, a.FitsWords

theorem written_cons (a : Amount) (as : List Amount) : written (a :: as) = a.text ++ written as :=
  List.flatMap_cons

theorem atPart_written (as : List Amount) : AtPart (written as) := by
  cases as with
  | nil => exact nofun
  | cons a as =>
    obtain ⟨c, r, htext, hc⟩ := a.exists_head
    rw [AtPart, written_cons, htext]
    simpa using hc

theorem written_cons_ne_nil (a : Amount) (as : List Amount) : written (a :: as) ≠ [] := by
  obtain ⟨c, r, htext, -⟩ := a.exists_head
  rw [written_cons, htext]
  exact List.cons_ne_nil _ _

theorem trim_written (as : List Amount) : Text.trim (written as) = written as := by
  apply Text.Bare.trim_eq
  apply Text.Unbroken.bare
  intro c hc
  obtain ⟨a, -, hc⟩ := List.mem_flatMap.1 hc
  exact a.unbroken_text c hc

/-- A text comes apart into amounts in one way only. -/
theorem written_inj (h : written as = written bs) : as = bs := by
  induction as generalizing bs with
  | nil =>
    cases bs with
    | nil => rfl
    | cons b bs => exact absurd h.symm (written_cons_ne_nil b bs)
  | cons a as ih =>
    cases bs with
    | nil => exact absurd h (written_cons_ne_nil a as)
    | cons b bs =>
      rw [written_cons, written_cons] at h
      obtain ⟨rfl, hrest⟩ := Amount.text_append_inj (atPart_written as) (atPart_written bs) h
      rw [ih hrest]

/-- An amount that fits its words is a part, and the other way round. -/
def Part.amount (p : Part) : Amount := ⟨p.digits, p.unit, p.ne_nil, p.isNumber⟩

theorem Part.fitsWords_amount (p : Part) : p.amount.FitsWords := ⟨p.number_lt, p.millis_lt⟩

theorem exists_parts (h : ∀ a ∈ as, a.FitsWords) : ∃ ps : List Part, ps.map Part.amount = as := by
  induction as with
  | nil => exact ⟨[], rfl⟩
  | cons a as ih =>
    obtain ⟨ha, has⟩ := List.forall_mem_cons.1 h
    obtain ⟨ps, rfl⟩ := ih has
    exact ⟨⟨a.digits, a.unit, a.ne_nil, a.isNumber, ha.number_lt, ha.millis_lt⟩ :: ps, rfl⟩

theorem written_map_amount (ps : List Part) : written (ps.map Part.amount) = spelling ps :=
  List.flatMap_map ..

theorem trim_spelling (ps : List Part) : Text.trim (spelling ps) = spelling ps := by
  rw [← written_map_amount, trim_written]

theorem total_map_amount (ps : List Part) : total (ps.map Part.amount) = millisOf ps := by
  induction ps with
  | nil => rfl
  | cons p ps ih => rw [millisOf, ← ih]; rfl

theorem denotes_iff : Denotes s d ↔ ∃ as, Writes s as ∧ d = ofMillis (total as) := by
  constructor
  · rintro ⟨ps, hps, htrim, rfl⟩
    refine ⟨ps.map Part.amount, ⟨by simpa using hps, ?_, ?_⟩, by rw [total_map_amount]⟩
    · rw [htrim, written_map_amount]
    · intro a ha
      obtain ⟨p, -, rfl⟩ := List.mem_map.1 ha
      exact p.fitsWords_amount
  · rintro ⟨as, ⟨has, htrim, hfits⟩, rfl⟩
    obtain ⟨ps, rfl⟩ := exists_parts hfits
    rw [written_map_amount] at htrim
    exact ⟨ps, by simpa using has, htrim, by rw [total_map_amount]⟩

theorem isDuration_iff : IsDuration s ↔ ∃ as, Writes s as := by
  constructor
  · rintro ⟨d, hd⟩
    obtain ⟨as, has, -⟩ := denotes_iff.1 hd
    exact ⟨as, has⟩
  · rintro ⟨as, has⟩
    exact ⟨_, denotes_iff.2 ⟨as, has, rfl⟩⟩

/-- An amount alone is read, if it fits its words. -/
theorem Amount.parse_of_text {a : Amount} (htext : s.toList = a.text) (hfits : a.FitsWords) :
    parse s = .ok (ofMillis a.millis) := by
  have hwrites : Writes s [a] := by
    refine ⟨List.cons_ne_nil _ _, ?_, by simpa using hfits⟩
    rw [htext, ← trim_written]
    simp [written]
  refine parse_eq_ok_iff.2 ⟨denotes_iff.2 ⟨[a], hwrites, by simp [total]⟩, ?_⟩
  rw [inRange_ofMillis_iff]
  have hlt := hfits.millis_lt
  omega

/-- A text denotes one duration at most. -/
theorem Denotes.unique (h : Denotes s d) (h' : Denotes s d') : d = d' := by
  obtain ⟨as, has, rfl⟩ := denotes_iff.1 h
  obtain ⟨bs, hbs, rfl⟩ := denotes_iff.1 h'
  rw [written_inj (has.text.symm.trans hbs.text)]

/-- Of the texts whose sum stays in range, those are read that are made of amounts which fit their
words, as the sum of these amounts, and all others are refused. -/
theorem parse_reads_amounts (h : Fits s) :
    (∀ d, parse s = .ok d ↔ ∃ as, Writes s as ∧ d = ofMillis (total as)) ∧
    ((∃ cause, parse s = .error (.refused cause)) ↔ ¬ ∃ as, Writes s as) ∧
    ∀ as bs : List Amount, written as = written bs → as = bs := by
  refine ⟨fun d => (parse_eq_ok_iff_of_fits h).trans denotes_iff, ?_, fun as bs => written_inj⟩
  rw [(parse_settles h).refused_iff, isDuration_iff]

theorem padded_minutes_are_read :
    Fits " 1h30m\t" ∧ parse " 1h30m\t" = .ok (.ofSeconds 5400) := by
  have hwrites : Writes " 1h30m\t" [⟨['1'], .hour, by decide, by decide⟩,
      ⟨['3', '0'], .minute, by decide, by decide⟩] := by
    refine ⟨by decide, by decide, ?_⟩
    intro a ha
    rcases List.mem_pair.1 ha with rfl | rfl <;> exact ⟨by decide, by decide⟩
  have hdenotes : Denotes " 1h30m\t" (.ofSeconds 5400) := denotes_iff.2 ⟨_, hwrites, rfl⟩
  have hfits : Fits " 1h30m\t" := fits_of_parse (parse_eq_ok_iff.2 ⟨hdenotes, by decide⟩)
  exact ⟨hfits, ((parse_reads_amounts hfits).1 _).2 ⟨_, hwrites, rfl⟩⟩

end Duration

end ResourceSync
