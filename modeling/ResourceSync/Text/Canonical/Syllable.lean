/-! The syllables of Hangul, which are numbered by leading consonant, vowel and final consonant. -/
namespace ResourceSync.Text

def leadBase : Nat := 0x1100
def vowelBase : Nat := 0x1161
def tailBase : Nat := 0x11A7
def syllableBase : Nat := 0xAC00
def leadCount : Nat := 19
def vowelCount : Nat := 21

/-- The final consonants, and their absence as number zero. -/
def tailCount : Nat := 28

def syllableCount : Nat := leadCount * vowelCount * tailCount

/-- The letters of a syllable. -/
def splitSyllable? (c : Char) : Option (List Char) :=
  let n := c.toNat - syllableBase
  if c.toNat < syllableBase || syllableCount ≤ n then none
  else
    let lead := Char.ofNat (leadBase + n / (vowelCount * tailCount))
    let vowel := Char.ofNat (vowelBase + n / tailCount % vowelCount)
    let tail := if n % tailCount = 0 then [] else [Char.ofNat (tailBase + n % tailCount)]
    some (lead :: vowel :: tail)

/-- The syllable of a leading consonant and a vowel, or of an open syllable and a final
consonant. -/
def joinSyllable? (a b : Char) : Option Char :=
  let lead := a.toNat - leadBase
  let vowel := b.toNat - vowelBase
  let tail := b.toNat - tailBase
  let syllable := a.toNat - syllableBase
  if leadBase ≤ a.toNat && lead < leadCount && vowelBase ≤ b.toNat && vowel < vowelCount then
    some (Char.ofNat (syllableBase + (lead * vowelCount + vowel) * tailCount))
  else if syllableBase ≤ a.toNat && syllable < syllableCount && syllable % tailCount = 0 &&
      tailBase < b.toNat && tail < tailCount then
    some (Char.ofNat (a.toNat + tail))
  else none

example : splitSyllable? '각' = some ['ᄀ', 'ᅡ', 'ᆨ'] := by decide

example : joinSyllable? '가' 'ᆨ' = some '각' := by decide

end ResourceSync.Text
