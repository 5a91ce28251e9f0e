import ResourceSync.Duration.Basic
import ResourceSync.Text.Blank

/-! Durations in rule notation: numbers with units, one after another, as in `1h30m`. -/
namespace ResourceSync

/-- The units of rule notation. -/
inductive TimeUnit where
  | millisecond
  | second
  | minute
  | hour
  | day
  | week
  | year
deriving DecidableEq, Repr

namespace TimeUnit

def all : List TimeUnit := [millisecond, second, minute, hour, day, week, year]

def symbol : TimeUnit → List Char
  | millisecond => ['m', 's']
  | second => ['s']
  | minute => ['m']
  | hour => ['h']
  | day => ['d']
  | week => ['w']
  | year => ['y']

/-- Months being unknown, a year has 365 days. -/
def millis : TimeUnit → Nat
  | millisecond => 1
  | second => 1000
  | minute => 60000
  | hour => 3600000
  | day => 86400000
  | week => 604800000
  | year => 31536000000

def ofSymbol? (s : List Char) : Option TimeUnit := all.find? fun u => u.symbol = s

end TimeUnit

/-- Why a text is no duration in rule notation. The input is quoted without surrounding blanks. -/
inductive DurationError where
  | empty
  | expectedNumber (input : String)
  | numberTooLarge (input : String)
  | unknownUnit (input unit : String)
  | partTooLarge (input : String)
deriving DecidableEq, Repr

def DurationError.message : DurationError → String
  | .empty => "empty duration"
  | .expectedNumber input => s!"invalid duration '{input}': expected a number"
  | .numberTooLarge input =>
    s!"invalid duration '{input}': number too large to fit in target type"
  | .unknownUnit input unit => s!"invalid duration '{input}': unknown unit '{unit}'"
  | .partTooLarge input => s!"duration '{input}' overflows"

namespace Duration

def isDigit (c : Char) : Bool := '0' ≤ c && c ≤ '9'

/-- The number that a run of digits denotes. -/
def digitsValue (s : List Char) : Nat := s.foldl (fun n c => n * 10 + (c.toNat - '0'.toNat)) 0

theorem length_dropWhile_le {α : Type} (p : α → Bool) (s : List α) :
    (s.dropWhile p).length ≤ s.length := by
  induction s with
  | nil => simp
  | cons c r ih =>
    rw [List.dropWhile_cons]
    split
    · exact Nat.le_succ_of_le ih
    · exact Nat.le_refl _

theorem length_dropWhile_lt {α : Type} {p : α → Bool} {s : List α} (h : s.takeWhile p ≠ []) :
    (s.dropWhile p).length < s.length := by
  cases s with
  | nil => simp at h
  | cons c r =>
    by_cases hc : p c = true
    · simpa [hc] using Nat.lt_succ_of_le (length_dropWhile_le p r)
    · simp [hc] at h

/-- One past the largest number that a part may hold, in its own unit and in milliseconds. -/
def partLimit : Nat := 18446744073709551616

/-- The first part of `s` and what follows it; `input` is the whole text, for diagnostics. -/
def nextPart (input : String) (s : List Char) : Except DurationError (Duration × List Char) :=
  let digits := s.takeWhile isDigit
  let rest := s.dropWhile isDigit
  let symbol := rest.takeWhile fun c => !isDigit c
  if digits = [] then .error (.expectedNumber input)
  else if partLimit ≤ digitsValue digits then .error (.numberTooLarge input)
  else
    match TimeUnit.ofSymbol? symbol with
    | none => .error (.unknownUnit input (String.ofList symbol))
    | some unit =>
      if partLimit ≤ digitsValue digits * unit.millis then .error (.partTooLarge input)
      else .ok (ofMillis (digitsValue digits * unit.millis), rest.dropWhile fun c => !isDigit c)

theorem length_lt_of_nextPart {input : String} {s r : List Char} {d : Duration}
    (h : nextPart input s = .ok (d, r)) : r.length < s.length := by
  unfold nextPart at h
  dsimp only at h
  split at h
  · cases h
  · next hd =>
    split at h
    · cases h
    · split at h
      · cases h
      · split at h
        · cases h
        · cases h
          exact Nat.lt_of_le_of_lt (length_dropWhile_le _ _) (length_dropWhile_lt hd)

/-- Adds the parts of `s` to `total`. -/
def sumParts (input : String) (total : Duration) (s : List Char) : Checked DurationError Duration :=
  if s.isEmpty then .ok total
  else
    match _h : nextPart input s with
    | .error e => .error (.refused e)
    | .ok (part, rest) =>
      match total.add part with
      | .error e => .error e
      | .ok total => sumParts input total rest
termination_by s.length
decreasing_by exact length_lt_of_nextPart ‹_›

/-- The duration that a text denotes, blanks around it aside. -/
def parse (s : String) : Checked DurationError Duration :=
  let input := Text.trim s.toList
  if input.isEmpty then .error (.refused .empty)
  else sumParts (String.ofList input) .zero input

end Duration

end ResourceSync
