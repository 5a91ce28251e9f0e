import ResourceSync.Binary64.Basic
import ResourceSync.Halt

/-! Spans of time with seconds in a 64-bit word and nanoseconds below a second. -/
namespace ResourceSync

/-- A span of time, by its whole number of nanoseconds. -/
structure Duration where
  nanoseconds : Nat
deriving DecidableEq, Repr

namespace Duration

def second : Nat := 1000000000

def zero : Duration := ⟨0⟩

def ofSeconds (n : Nat) : Duration := ⟨n * second⟩

def ofMillis (n : Nat) : Duration := ⟨n * 1000000⟩

def wholeSeconds (d : Duration) : Nat := d.nanoseconds / second

def subsecond (d : Duration) : Nat := d.nanoseconds % second

/-- Whether the seconds fit their word. -/
def inRange (d : Duration) : Bool := d.wholeSeconds < UInt64.size

/-- Seconds with nanoseconds on top of them, which may make up further seconds. -/
def ofParts {ε : Type} (seconds nanos : Nat) : Checked ε Duration :=
  let d : Duration := ⟨seconds * second + nanos⟩
  if d.inRange then .ok d else .error (.brokeOff "overflow in Duration::new")

def add {ε : Type} (a b : Duration) : Checked ε Duration :=
  let d : Duration := ⟨a.nanoseconds + b.nanoseconds⟩
  if d.inRange then .ok d else .error (.brokeOff "overflow when adding durations")

/-- The span in seconds as a double: whole seconds and the part below a second, each rounded. -/
def seconds64 (d : Duration) : Binary64 :=
  (Binary64.ofNat d.wholeSeconds).add ((Binary64.ofNat d.subsecond).div (Binary64.ofNat second))

/-- A number with a fraction of `places` digits, without the zeros at its end. -/
def fractional (whole fraction places : Nat) : String :=
  let digits := (toString fraction).toList
  let padded := List.replicate (places - digits.length) '0' ++ digits
  let kept := (padded.reverse.dropWhile (· == '0')).reverse
  toString whole ++ if kept.isEmpty then "" else "." ++ String.ofList kept

/-- The span in the largest unit from nanoseconds to seconds that it fills, with the fraction it
needs. -/
def text (d : Duration) : String :=
  let n := d.nanoseconds
  if second ≤ n then fractional (n / second) (n % second) 9 ++ "s"
  else if 1000000 ≤ n then fractional (n / 1000000) (n % 1000000) 6 ++ "ms"
  else if 1000 ≤ n then fractional (n / 1000) (n % 1000) 3 ++ "µs"
  else toString n ++ "ns"

example : (ofMillis 1500).text = "1.5s" := by decide

/-- The whole seconds that cover the span. -/
def ceilSeconds (d : Duration) : Nat := d.wholeSeconds + if 0 < d.subsecond then 1 else 0

/-- The span as a window in its largest whole unit from seconds to days. A part of a second
counts as a whole one, and the empty span as one second. -/
def timeWindow {ε : Type} (d : Duration) : Checked ε String :=
  let s := d.ceilSeconds
  if UInt64.size ≤ s then .error (.brokeOff "attempt to add with overflow")
  else .ok <|
    if s = 0 then "1s"
    else if s % 86400 = 0 then toString (s / 86400) ++ "d"
    else if s % 3600 = 0 then toString (s / 3600) ++ "h"
    else if s % 60 = 0 then toString (s / 60) ++ "m"
    else toString s ++ "s"

end Duration

end ResourceSync
