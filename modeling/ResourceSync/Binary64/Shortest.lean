import ResourceSync.Binary64.Basic

/-! Decimals of double-precision numbers: the fewest digits that read back, and the two ways to
write them. -/
namespace ResourceSync

/-- The number `digits * 10 ^ exponent`. -/
structure Decimal where
  digits : Nat
  exponent : Int
deriving DecidableEq, Repr

namespace Decimal

/-- Compares `d` with `n * 2 ^ e`. -/
def compareBinary (d : Decimal) (n : Nat) (e : Int) : Ordering :=
  compare (d.digits * Nat.pow 10 d.exponent.toNat * Nat.pow 2 (-e).toNat)
    (n * Nat.pow 2 e.toNat * Nat.pow 10 (-d.exponent).toNat)

/-- Moves trailing zeros of the digits into the exponent, at most `limit` of them. -/
def stripped (limit : Nat) (d : Decimal) : Decimal :=
  match limit with
  | 0 => d
  | limit + 1 =>
    if d.digits ≠ 0 ∧ d.digits % 10 = 0 then stripped limit ⟨d.digits / 10, d.exponent + 1⟩ else d

/-- All places written out, with no exponent; a whole number has no point. -/
def positional (d : Decimal) : List Char :=
  let digits := Nat.toDigits 10 d.digits
  if 0 ≤ d.exponent then digits ++ List.replicate d.exponent.toNat '0'
  else
    let places := d.exponent.natAbs
    if places < digits.length then
      digits.take (digits.length - places) ++ '.' :: digits.drop (digits.length - places)
    else '0' :: '.' :: List.replicate (places - digits.length) '0' ++ digits

/-- The power of ten that the leading digit stands for. -/
def leading (d : Decimal) : Int := d.exponent + (Nat.toDigits 10 d.digits).length - 1

/-- One digit before the point, and the power of ten that it stands for. -/
def scientific (d : Decimal) : List Char :=
  let digits := Nat.toDigits 10 d.digits
  let tail := digits.drop 1
  let point := if tail.isEmpty then [] else '.' :: tail
  let sign := if d.leading < 0 then '-' else '+'
  digits.take 1 ++ point ++ 'e' :: sign :: Nat.toDigits 10 d.leading.natAbs

end Decimal

namespace Binary64

/-- Whether `d` lies among the reals that round to the magnitude of `x`. -/
def readsBack (x : Binary64) (d : Decimal) : Bool :=
  let m := x.significand
  let e : Int := (x.scale : Int) - 1076
  let low := if m = Nat.pow 2 52 ∧ 0 < x.scale then 4 * m - 1 else 4 * m - 2
  let inclusive := m % 2 = 0
  let below := d.compareBinary low e
  let above := d.compareBinary (4 * m + 2) e
  (below == .gt || (inclusive && below == .eq)) && (above == .lt || (inclusive && above == .eq))

/-- The least `k` with the magnitude of `x` below `10 ^ k`, from an estimate that is off by one
at most. -/
def decimalScale (x : Binary64) : Int :=
  let e : Int := (x.scale : Int) - 1074
  let estimate := Int.fdiv ((x.significand.log2 + e) * 30103) 100000
  let least (k : Int) : Bool := (Decimal.mk 1 k).compareBinary x.significand e == .gt
  if least estimate then estimate
  else if least (estimate + 1) then estimate + 1
  else estimate + 2

/-- The nearer neighbour of the magnitude on the grid of `n` digits that reads back, if one does. -/
def onGrid (x : Binary64) (k : Int) (n : Nat) : Option Decimal :=
  let step := k - n
  let e : Int := (x.scale : Int) - 1074
  let num := x.significand * Nat.pow 2 e.toNat * Nat.pow 10 (-step).toNat
  let den := Nat.pow 2 (-e).toNat * Nat.pow 10 step.toNat
  let down : Decimal := ⟨num / den, step⟩
  let up : Decimal := ⟨num / den + 1, step⟩
  match x.readsBack down, x.readsBack up with
  | true, true => if 2 * (num % den) < den then some down else some up
  | true, false => some down
  | false, true => some up
  | false, false => none

/-- The decimal with the fewest digits that reads back as the magnitude of a finite number, and the
nearest of those. -/
def shortest (x : Binary64) : Decimal :=
  if x.significand = 0 then ⟨0, 0⟩
  else
    let k := x.decimalScale
    match (List.range 17).findSome? fun i => x.onGrid k (i + 1) with
    | some d => d.stripped 20
    | none => ⟨x.size * Nat.pow 5 1074, -1074⟩

/-- A text behind the sign of a number, where that is negative. -/
def signed (x : Binary64) (text : List Char) : String :=
  String.ofList (if x.negative then '-' :: text else text)

/-- All places written out, with no exponent; a whole number has no point. -/
def positional (x : Binary64) : String :=
  if x.isNaN then "NaN"
  else if !x.isFinite then x.signed ['i', 'n', 'f']
  else x.signed x.shortest.positional

/-- All places written out, with a point in any case. -/
def withPoint (x : Binary64) : String :=
  let text := x.positional
  if x.isFinite && !text.toList.contains '.' then text ++ ".0" else text

/-- Positional while the leading digit stands for `10 ^ -5` up to `10 ^ 15`, else with an
exponent. -/
def compact (x : Binary64) : String :=
  let leading := x.shortest.leading
  if x.isFinite && (leading < -5 || 16 ≤ leading) then x.signed x.shortest.scientific
  else x.withPoint

example : (ofRatio false 1 10).compact = "0.1" := by decide +kernel

example : (add (ofRatio false 1 10) (ofRatio false 2 10)).compact = "0.30000000000000004" := by
  decide +kernel

example : (Binary64.mk 1).compact = "5e-324" := by decide +kernel

example : (ofNat UInt64.size).positional = "18446744073709552000" := by decide +kernel

end Binary64

end ResourceSync
