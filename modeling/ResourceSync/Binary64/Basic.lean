/-! Double-precision numbers as 64-bit words, with arithmetic by exact rationals and one
rounding. -/
namespace ResourceSync

/-- A double-precision number, by its bits: sign, eleven bits of exponent, fifty-two of fraction. -/
structure Binary64 where
  bits : UInt64
deriving DecidableEq, Repr

namespace Binary64

def ofNatBits (n : Nat) : Binary64 := ⟨UInt64.ofNat n⟩

def negative (x : Binary64) : Bool := Nat.pow 2 63 ≤ x.bits.toNat

/-- The word without its sign bit. Among numbers that are not NaN it grows with the magnitude. -/
def magnitude (x : Binary64) : Nat := x.bits.toNat % Nat.pow 2 63

def infinityMagnitude : Nat := 2047 * Nat.pow 2 52

def isNaN (x : Binary64) : Bool := infinityMagnitude < x.magnitude

def isFinite (x : Binary64) : Bool := x.magnitude < infinityMagnitude

def isZero (x : Binary64) : Bool := x.magnitude = 0

/-- Numeric equality: NaN equals nothing, and the two zeros are one number. -/
def equals (x y : Binary64) : Bool :=
  !x.isNaN && !y.isNaN && (decide (x = y) || (x.isZero && y.isZero))

/-- Whether the number is zero or more. NaN is not. -/
def nonnegative (x : Binary64) : Bool := !x.isNaN && (!x.negative || x.isZero)

/-- A finite number is `significand * 2 ^ (scale - 1074)`. -/
def significand (x : Binary64) : Nat :=
  let fraction := x.magnitude % Nat.pow 2 52
  if x.magnitude < Nat.pow 2 52 then fraction else Nat.pow 2 52 + fraction

def scale (x : Binary64) : Nat := x.magnitude / Nat.pow 2 52 - 1

/-- The number with the given sign and magnitude word. -/
def ofMagnitude (negative : Bool) (magnitude : Nat) : Binary64 :=
  ofNatBits (magnitude + if negative then Nat.pow 2 63 else 0)

/-- The quotient rounded to the nearest integer, a half to the even neighbour. -/
def roundedQuotient (n d : Nat) : Nat :=
  let q := n / d
  match compare (2 * (n % d)) d with
  | .lt => q
  | .gt => q + 1
  | .eq => if q % 2 = 0 then q else q + 1

/-- The greatest `e` with `d * 2 ^ e ≤ n`, for positive `n` and `d`. -/
def floorLog (n d : Nat) : Int :=
  let e : Int := (n.log2 : Int) - d.log2
  if d * Nat.pow 2 e.toNat ≤ n * Nat.pow 2 (-e).toNat then e else e - 1

/-- The number nearest to `n / d`, a half to the even neighbour; too great a quotient is
infinite. -/
def ofRatio (negative : Bool) (n d : Nat) : Binary64 :=
  if n = 0 then ofMagnitude negative 0
  else
    let e : Int := max (floorLog n d - 52) (-1074)
    let m := roundedQuotient (n * Nat.pow 2 (-e).toNat) (d * Nat.pow 2 e.toNat)
    ofMagnitude negative (min ((e + 1074).toNat * Nat.pow 2 52 + m) infinityMagnitude)

def ofNat (n : Nat) : Binary64 := ofRatio false n 1

def ofInt (n : Int) : Binary64 := ofRatio (n < 0) n.natAbs 1

def zero : Binary64 := ⟨0⟩

def one : Binary64 := ofNat 1

def neg (x : Binary64) : Binary64 := ofMagnitude (!x.negative) x.magnitude

/-- The absolute value of a finite number in units of the least positive one. -/
def size (x : Binary64) : Nat := x.significand * Nat.pow 2 x.scale

def units (x : Binary64) : Int := if x.negative then -x.size else x.size

/-- The sum of two finite numbers, rounded once. A sum of opposite numbers is the positive zero. -/
def add (x y : Binary64) : Binary64 :=
  let s := x.units + y.units
  if s = 0 then ofMagnitude (x.negative && y.negative) 0
  else ofRatio (s < 0) s.natAbs (Nat.pow 2 1074)

/-- The product of two finite numbers, rounded once. -/
def mul (x y : Binary64) : Binary64 :=
  ofRatio (x.negative != y.negative) (x.size * y.size) (Nat.pow 2 2148)

/-- The quotient of a finite number by a finite number other than zero, rounded once. -/
def div (x y : Binary64) : Binary64 :=
  ofRatio (x.negative != y.negative) x.size y.size

example : ofRatio false 1 10 = ⟨0x3FB999999999999A⟩ := by decide +kernel

example : add (ofRatio false 1 10) (ofRatio false 2 10) = ⟨0x3FD3333333333334⟩ := by decide +kernel

end Binary64

end ResourceSync
