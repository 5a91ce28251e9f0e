/-! Texts from octets: what is no UTF-8 becomes replacement characters. -/
namespace ResourceSync.Text

/-- What the first octet of a character beyond ASCII announces: how many octets follow it, between
which bounds the first of them lies, and the bits it contributes. -/
def announced? (b : Nat) : Option (Nat × Nat × Nat × Nat) :=
  if 0xC2 ≤ b ∧ b ≤ 0xDF then some (1, 0x80, 0xBF, b - 0xC0)
  else if b = 0xE0 then some (2, 0xA0, 0xBF, 0)
  else if b = 0xED then some (2, 0x80, 0x9F, 0xD)
  else if 0xE1 ≤ b ∧ b ≤ 0xEF then some (2, 0x80, 0xBF, b - 0xE0)
  else if b = 0xF0 then some (3, 0x90, 0xBF, 0)
  else if 0xF1 ≤ b ∧ b ≤ 0xF3 then some (3, 0x80, 0xBF, b - 0xF0)
  else if b = 0xF4 then some (3, 0x80, 0x8F, 4)
  else none

def replacement : Char := '\uFFFD'

/-- Whether a character has been begun: how many octets it still misses, between which bounds the
next of them lies, and the bits so far. -/
inductive Utf8State where
  | ready
  | within (missing low high bits : Nat)

/-- Reads an octet where a character may begin. -/
def beginChar (done : List Char) (b : Nat) : Utf8State × List Char :=
  if b < 0x80 then (.ready, Char.ofNat b :: done)
  else
    match announced? b with
    | some (missing, low, high, bits) => (.within missing low high bits, done)
    | none => (.ready, replacement :: done)

/-- Reads one octet; the characters that are complete stand last first. -/
def readOctet (s : Utf8State × List Char) (b : UInt8) : Utf8State × List Char :=
  match s with
  | (.ready, done) => beginChar done b.toNat
  | (.within missing low high bits, done) =>
    if low ≤ b.toNat ∧ b.toNat ≤ high then
      let bits := bits * 64 + (b.toNat - 0x80)
      if missing ≤ 1 then (.ready, Char.ofNat bits :: done)
      else (.within (missing - 1) 0x80 0xBF bits, done)
    else beginChar (replacement :: done) b.toNat

/-- The text that octets stand for. A character that is begun and not completed is replaced once. -/
def ofOctets (octets : List UInt8) : String :=
  match octets.foldl readOctet (.ready, []) with
  | (.ready, done) => String.ofList done.reverse
  | (.within _ _ _ _, done) => String.ofList (replacement :: done).reverse

example : ofOctets [0x61, 0xC3, 0xA9, 0xE2, 0x82, 0x41, 0xFF] = "aé\uFFFDA\uFFFD" := by
  decide +kernel

end ResourceSync.Text
