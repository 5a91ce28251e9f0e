import ResourceSync.Text.Cut

/-! Punycode: labels beyond ASCII written with letters, digits and hyphens. -/
namespace ResourceSync.Punycode

def base : Nat := 36
def tMin : Nat := 1
def tMax : Nat := 26

/-- The bias after a delta, which follows the size of the deltas so far. -/
def adapt (delta points : Nat) (first : Bool) : Nat :=
  let delta := if first then delta / 700 else delta / 2
  scale 64 0 (delta + delta / points)
where
  scale (steps k delta : Nat) : Nat :=
    match steps with
    | 0 => k
    | steps + 1 =>
      if (base - tMin) * tMax / 2 < delta then scale steps (k + base) (delta / (base - tMin))
      else k + (base - tMin + 1) * delta / (delta + 38)

def threshold (k bias : Nat) : Nat := if k ≤ bias then tMin else min tMax (k - bias)

def digit (d : Nat) : Char := Char.ofNat (if d < 26 then d + 97 else d - 26 + 48)

/-- A delta as digits of a variable base. -/
def digits (bias delta : Nat) : List Char := go 64 base delta
where
  go (steps k q : Nat) : List Char :=
    match steps with
    | 0 => []
    | steps + 1 =>
      let t := threshold k bias
      if q < t then [digit q]
      else digit (t + (q - t) % (base - t)) :: go steps (k + base) ((q - t) / (base - t))

/-- The state while code points are inserted in ascending order. -/
structure State where
  next : Nat
  delta : Nat
  bias : Nat
  handled : Nat
  out : List Char

/-- Visits every character of the label for one code point. -/
def visit (basic point : Nat) (s : State) (c : Char) : State :=
  if c.toNat < point then { s with delta := s.delta + 1 }
  else if c.toNat = point then
    { s with
      out := s.out ++ digits s.bias s.delta
      bias := adapt s.delta (s.handled + 1) (s.handled = basic)
      delta := 0
      handled := s.handled + 1 }
  else s

/-- A label in ASCII, without the mark in front. -/
def encode (label : List Char) : List Char :=
  let ascii := label.filter fun c => c.toNat < 128
  let start := if ascii.isEmpty then [] else ascii ++ ['-']
  let points := ((label.filter fun c => 128 ≤ c.toNat).map Char.toNat).mergeSort.eraseDups
  let done := points.foldl (fun s point =>
    let s := { s with delta := s.delta + (point - s.next) * (s.handled + 1) }
    let s := label.foldl (visit ascii.length point) s
    { s with delta := s.delta + 1, next := point + 1 }) ⟨128, 0, 72, ascii.length, start⟩
  done.out

def digitValue? (c : Char) : Option Nat :=
  if 'a' ≤ c && c ≤ 'z' then some (c.toNat - 97)
  else if '0' ≤ c && c ≤ '9' then some (c.toNat - 48 + 26)
  else none

/-- The delta that a text starts with, and what follows it. -/
def delta? (bias k weight sum : Nat) : List Char → Option (Nat × List Char)
  | [] => none
  | c :: r => do
    let d ← digitValue? c
    let t := threshold k bias
    let sum := sum + d * weight
    if d < t then some (sum, r) else delta? bias (k + base) (weight * (base - t)) sum r

/-- Puts the code points that the deltas in a text stand for at their places, starting at `place`
with code point `point`. Every delta takes a character at least. -/
def insertPoints (steps point place bias : Nat) (out s : List Char) : Option (List Char) :=
  match steps, s with
  | _, [] => some out
  | 0, _ => none
  | steps + 1, s => do
    let (delta, r) ← delta? bias base 1 0 s
    let size := out.length + 1
    let point := point + (place + delta) / size
    let place' := (place + delta) % size
    if point.isValidChar then
      insertPoints steps point (place' + 1) (adapt delta size (place = 0))
        (out.take place' ++ [Char.ofNat point] ++ out.drop place') r
    else none

/-- The label that a text without the mark in front stands for. -/
def decode? (s : List Char) : Option (List Char) :=
  let (basic, rest) := (Text.cutLast? '-' s).getD ([], s)
  insertPoints rest.length 128 0 72 basic rest

example : encode "bücher".toList = "bcher-kva".toList := by decide +kernel

example : decode? "bcher-kva".toList = some "bücher".toList := by decide +kernel

end ResourceSync.Punycode
