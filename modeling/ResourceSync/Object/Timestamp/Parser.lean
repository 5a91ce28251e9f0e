import ResourceSync.Json.Codec
import ResourceSync.Object.Timestamp.Basic
import ResourceSync.Object.Timestamp.Error
import ResourceSync.Text.Octets

/-! Reading a timestamp: a date, a time of day and an offset, each in the long form or in the one
without separators, and annotations in brackets that are checked and not kept. -/
namespace ResourceSync

namespace TimestampText
open Timestamp

/-- Steps that read the octets of a text from its start. -/
abbrev Reading := StateT (List UInt8) (Except TimestampError)

def isOctet (c : Char) (b : UInt8) : Bool := b.toNat = c.toNat

def isDigit (b : UInt8) : Bool := 48 ≤ b.toNat && b.toNat ≤ 57

def isLower (b : UInt8) : Bool := 97 ≤ b.toNat && b.toNat ≤ 122

def isLetter (b : UInt8) : Bool := isLower b || (65 ≤ b.toNat && b.toNat ≤ 90)

def peek : Reading (Option UInt8) := return (← get).head?

/-- Passes over one octet if it is of a kind. -/
def accept (isWanted : UInt8 → Bool) : Reading Bool := do
  match ← get with
  | b :: rest =>
    if isWanted b then set rest; return true
    else return false
  | [] => return false

/-- The octets of a kind that come next. -/
def span (isWanted : UInt8 → Bool) : Reading (List UInt8) :=
  modifyGet fun s => (s.takeWhile isWanted, s.dropWhile isWanted)

def value (digits : List UInt8) : Nat := digits.foldl (fun n b => n * 10 + (b.toNat - 48)) 0

def number (part : TimestampPart) : Reading Nat := do
  let s ← get
  let digits := s.take part.digits
  if digits.length < part.digits then throw (.missing part)
  if let some b := digits.find? fun b => !isDigit b then throw (.noDigit part b)
  if (value digits : Int) < part.bounds.1 ∨ part.bounds.2 < value digits then
    throw (.outOfRange part)
  set (s.drop part.digits)
  return value digits

/-- A sign, if one comes next: whether it is negative. -/
def sign? : Reading (Option Bool) := do
  if ← accept (isOctet '+') then return some false
  if ← accept (isOctet '-') then return some true
  return none

def year : Reading Int := do
  match ← sign? with
  | none => number .year
  | some negative =>
    let n ← number .signedYear
    if negative && n = 0 then throw .negativeYearZero
    return if negative then -n else n

/-- The hyphen between parts of a date: it stands everywhere or nowhere. -/
def hyphen (extended : Bool) : Reading Unit := do
  let next ← peek
  if extended then
    if !(← accept (isOctet '-')) then throw (.expectedHyphen next)
  else if (next.map (isOctet '-')).getD false then throw .needlessHyphen

def date : Reading Timestamp := do
  let year ← year
  let extended := ((← peek).map (isOctet '-')).getD false
  hyphen extended
  let month ← number .month
  hyphen extended
  let day ← number .day
  if daysIn year month < day then throw (.noSuchDay year month (daysIn year month))
  return ⟨year, month, day, 0, 0, 0⟩

/-- Whether another part follows: after a colon, or else at once as two digits. -/
def continues (extended : Bool) : Reading Bool := do
  if extended then accept (isOctet ':')
  else
    let next := (← get).take 2
    return next.length = 2 && next.all isDigit

def startsWithColon : Reading Bool := return ((← peek).map (isOctet ':')).getD false

/-- The digits of a fraction of a second, without zeros at their end; none, where there is no
fraction. -/
def fraction : Reading (List UInt8) := do
  if !(← accept fun b => isOctet '.' b || isOctet ',' b) then return []
  let digits := ((← get).take 9).takeWhile isDigit
  if digits.isEmpty then throw .noFractionDigits
  modify (·.drop digits.length)
  return (digits.reverse.dropWhile (isOctet '0')).reverse

/-- A time of day. A leap second counts as the second before it. -/
structure Clock where
  hour : Nat
  minute : Nat
  second : Nat
  fraction : List UInt8

def clock : Reading Clock := do
  let hour ← number .hour
  let extended ← startsWithColon
  if !(← continues extended) then return ⟨hour, 0, 0, []⟩
  let minute ← number .minute
  if !(← continues extended) then return ⟨hour, minute, 0, []⟩
  let second ← number .second
  return ⟨hour, minute, min second 59, ← fraction⟩

/-- How far clocks are ahead of UTC, or behind it, in the parts that are given. -/
structure Offset where
  negative : Bool
  hours : Nat
  minutes : Option Nat
  seconds : Option Nat
  fraction : List UInt8

namespace Offset

/-- The offset in seconds, rounded where a fraction is given. -/
def total (o : Offset) : Int :=
  let roundsUp : Bool := (o.fraction.head?.map fun b => decide (53 ≤ b.toNat)).getD false
  let n : Int :=
    (o.hours * 60 + o.minutes.getD 0) * 60 + o.seconds.getD 0 + roundsUp.toNat
  if o.negative then -n else n

/-- An offset with as many parts as it needs. -/
def ofSeconds (n : Int) : Offset :=
  let seconds := if n.natAbs % 60 = 0 then none else some (n.natAbs % 60)
  let minutes := n.natAbs / 60 % 60
  ⟨n < 0, n.natAbs / 3600, if minutes = 0 ∧ seconds = none then none else some minutes, seconds, []⟩

end Offset

/-- An offset in hours, minutes and seconds, after its sign. Offsets of zones go down to minutes. -/
def offsetParts (negative isZone : Bool) : Reading Offset := do
  let hours ← number .offsetHours
  let extended ← startsWithColon
  if !(← continues extended) then return ⟨negative, hours, none, none, []⟩
  let minutes ← number .offsetMinutes
  if isZone && (← startsWithColon) then throw .fineZoneOffset
  if isZone || !(← continues extended) then return ⟨negative, hours, some minutes, none, []⟩
  let seconds ← number .offsetSeconds
  return ⟨negative, hours, some minutes, some seconds, ← fraction⟩

/-- What follows a time: the letter for UTC, an offset, or nothing. -/
inductive Placement where
  | nowhere
  | utc
  | ahead (o : Offset)

def placement : Reading Placement := do
  if ← accept fun b => isOctet 'Z' b || isOctet 'z' b then return .utc
  match ← sign? with
  | some negative => return .ahead (← offsetParts negative false)
  | none => return .nowhere

/-- The octet of a kind that has to come next. -/
def demand (part : AnnotationPart) (isWanted : UInt8 → Bool) : Reading Unit := do
  let next ← peek
  if !(← accept isWanted) then throw (.badTag part next)

def isNameStart (b : UInt8) : Bool := isLetter b || isOctet '_' b || isOctet '.' b

/-- One component of the name of a zone. -/
def nameComponent : Reading (List UInt8) := do
  let start := (← get).take 1
  demand .name isNameStart
  let rest ← span fun b => isNameStart b || isDigit b || isOctet '+' b || isOctet '-' b
  return start ++ rest

/-- The components of a name that follow the first, at most so many. -/
def furtherComponents : Nat → Reading (List UInt8)
  | 0 => return []
  | steps + 1 => do
    let slash := (← get).take 1
    if !(← accept (isOctet '/')) then return []
    let component ← nameComponent
    return slash ++ component ++ (← furtherComponents steps)

/-- The zone in brackets at the start of the annotations, if they start with one. -/
inductive Zone where
  | offset (critical : Bool) (o : Offset)
  | named (critical : Bool) (name : List UInt8)

def zone : Reading (Option Zone) := do
  let before ← get
  if !(← accept (isOctet '[')) then return none
  let critical ← accept (isOctet '!')
  match ← sign? with
  | some negative =>
    let o ← offsetParts negative true
    demand .zoneEnd (isOctet ']')
    return some (.offset critical o)
  | none =>
    let first ← nameComponent
    if ((← peek).map (isOctet '=')).getD false then
      set before
      return none
    let rest ← furtherComponents before.length
    demand .zoneEnd (isOctet ']')
    return some (.named critical (first ++ rest))

/-- The parts of the value of an annotation, which hyphens separate, at most so many. -/
def annotationValues : Nat → Reading Unit
  | 0 => return ()
  | steps + 1 => do
    let isWanted := fun b => isLetter b || isDigit b
    demand .value isWanted
    discard (span isWanted)
    if ← accept (isOctet '-') then annotationValues steps

/-- The annotations with a key and a value, at most so many. -/
def annotations : Nat → Reading Unit
  | 0 => return ()
  | steps + 1 => do
    if !(← accept (isOctet '[')) then return ()
    let critical ← accept (isOctet '!')
    let isKeyStart := fun b => isLower b || isOctet '_' b
    demand .key isKeyStart
    discard (span fun b => isKeyStart b || isDigit b || isOctet '-' b)
    demand .equalsSign (isOctet '=')
    annotationValues ((← get).length + 1)
    demand .pairEnd (isOctet ']')
    if critical then throw .unknownCritical
    annotations steps

/-- All that the text of a timestamp may tell. -/
structure Parts where
  date : Timestamp
  clock : Option Clock
  placement : Placement
  zone : Option Zone

def parts : Reading Parts := do
  let date ← date
  let hasTime ← accept fun b => isOctet 'T' b || isOctet 't' b || isOctet ' ' b
  let clock ← if hasTime then (return some (← clock) : Reading (Option Clock)) else pure none
  let placement ← if hasTime then placement else pure .nowhere
  let zone ← zone
  annotations (← get).length
  return ⟨date, clock, placement, zone⟩

def fractionText (digits : List UInt8) : String :=
  if digits.isEmpty then "" else "." ++ Text.ofOctets digits

def two (n : Nat) : String := String.ofList (padded 2 n)

def Clock.text (c : Clock) : String :=
  two c.hour ++ ":" ++ two c.minute ++ ":" ++ two c.second ++ fractionText c.fraction

def Offset.text (o : Offset) : String :=
  let part := fun (n : Option Nat) => (n.map fun n => ":" ++ two n).getD ""
  (if o.negative then "-" else "+") ++ two o.hours ++ part o.minutes ++ part o.seconds ++
    fractionText o.fraction

def Placement.text : Placement → String
  | .nowhere => ""
  | .utc => "Z"
  | .ahead o => o.text

def Zone.text (z : Zone) : String :=
  let (critical, name) := match z with
    | .offset critical o => (critical, o.text)
    | .named critical name => (critical, Text.ofOctets name)
  "[" ++ (if critical then "!" else "") ++ name ++ "]"

/-- What was read of a text that goes on. -/
def Parts.text (p : Parts) : String :=
  let year := if p.date.year < 0 then '-' :: padded 6 p.date.year.natAbs
    else padded 4 p.date.year.toNat
  String.ofList year ++ "-" ++ two p.date.month ++ "-" ++ two p.date.day ++
    (p.clock.map Clock.text).getD "" ++ p.placement.text ++ (p.zone.map Zone.text).getD ""

/-- The point in time, where all that it takes is there. -/
def Parts.timestamp (p : Parts) : Except TimestampError Timestamp := do
  let some clock := p.clock | throw .noTime
  let ahead ← match p.placement with
    | .nowhere => throw .noOffset
    | .utc => pure 0
    | .ahead o => if 93599 < o.total.natAbs then throw .offsetOutOfRange else pure o.total
  let onClock := { p.date with hour := clock.hour, minute := clock.minute, second := clock.second }
  let t := onClock.ofOffset ahead
  if t.isInBounds then return t else throw (.outOfBounds (Offset.ofSeconds ahead).text)

end TimestampText

namespace Timestamp

/-- The point in time that a text denotes; a fraction of a second is dropped. -/
def ofText (s : String) : Except TimestampError Timestamp := do
  let (parts, rest) ← TimestampText.parts.run s.toUTF8.toList
  if !rest.isEmpty then throw (.leftOver parts.text (Text.ofOctets rest))
  parts.timestamp

def codec : Codec Timestamp := .uniform (fun
    | .str s => (ofText s).mapError fun e => .malformed e.message
    | j => .error (.wrongType j "a timestamp string"))
  fun t => .str t.text

end Timestamp

end ResourceSync
