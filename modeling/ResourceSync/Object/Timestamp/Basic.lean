/-! Points in time to the second, as calendar fields in UTC. -/
namespace ResourceSync

structure Timestamp where
  year : Int
  month : Nat
  day : Nat
  hour : Nat
  minute : Nat
  second : Nat
deriving DecidableEq, Repr

namespace Timestamp

def isLeap (year : Int) : Bool := year % 4 = 0 && (year % 100 ≠ 0 || year % 400 = 0)

def daysIn (year : Int) (month : Nat) : Nat :=
  if month = 2 then if isLeap year then 29 else 28
  else if month = 4 ∨ month = 6 ∨ month = 9 ∨ month = 11 then 30
  else 31

def nextDay (t : Timestamp) : Timestamp :=
  if t.day < daysIn t.year t.month then { t with day := t.day + 1 }
  else if t.month < 12 then { t with month := t.month + 1, day := 1 }
  else { t with year := t.year + 1, month := 1, day := 1 }

def previousDay (t : Timestamp) : Timestamp :=
  if 1 < t.day then { t with day := t.day - 1 }
  else if 1 < t.month then { t with month := t.month - 1, day := daysIn t.year (t.month - 1) }
  else { t with year := t.year - 1, month := 12, day := 31 }

/-- The same time of day some days later. -/
def addDays (t : Timestamp) : Int → Timestamp
  | .ofNat n => Nat.repeat nextDay n t
  | .negSucc n => Nat.repeat previousDay (n + 1) t

/-- The same point in time, given on clocks that are ahead of UTC by some seconds. -/
def ofOffset (t : Timestamp) (ahead : Int) : Timestamp :=
  let seconds : Int := (t.hour * 60 + t.minute) * 60 + t.second - ahead
  let ofDay := (seconds % 86400).toNat
  { t.addDays (Int.fdiv seconds 86400) with
    hour := ofDay / 3600
    minute := ofDay / 60 % 60
    second := ofDay % 60 }

/-- A number that grows with time. -/
def rank (t : Timestamp) : Int :=
  ((((t.year * 12 + t.month) * 31 + t.day) * 24 + t.hour) * 60 + t.minute) * 60 + t.second

def earliest : Timestamp := ⟨-9999, 1, 2, 1, 59, 59⟩

def latest : Timestamp := ⟨9999, 12, 30, 22, 0, 0⟩

/-- Whether the point lies in the span that timestamps are kept for. -/
def isInBounds (t : Timestamp) : Bool := earliest.rank ≤ t.rank && t.rank ≤ latest.rank

/-- A number in `places` digits. -/
def padded : Nat → Nat → List Char
  | 0, _ => []
  | places + 1, n => padded places (n / 10) ++ [Nat.digitChar (n % 10)]

/-- A year in four places, of which a sign takes one. -/
def yearText (year : Int) : List Char :=
  if year < 0 then
    let digits := Nat.toDigits 10 year.natAbs
    '-' :: List.replicate (3 - digits.length) '0' ++ digits
  else padded 4 year.toNat

def text (t : Timestamp) : String :=
  String.ofList (yearText t.year ++ '-' :: padded 2 t.month ++ '-' :: padded 2 t.day ++
    'T' :: padded 2 t.hour ++ ':' :: padded 2 t.minute ++ ':' :: padded 2 t.second ++ ['Z'])

example : ((⟨2025, 2, 28, 23, 30, 0⟩ : Timestamp).ofOffset (-3600)).text =
    "2025-03-01T00:30:00Z" := by decide +kernel

example : ((⟨0, 1, 1, 0, 0, 0⟩ : Timestamp).ofOffset 93599).text = "-001-12-30T22:00:01Z" := by
  decide +kernel

end Timestamp

end ResourceSync
