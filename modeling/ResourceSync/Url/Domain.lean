import ResourceSync.Text.Canonical
import ResourceSync.Url.Domain.Direction
import ResourceSync.Url.Domain.Excluded
import ResourceSync.Url.Domain.Joining
import ResourceSync.Url.Domain.Replacement
import ResourceSync.Url.Punycode

/-! Domain names: characters are brought to one form, and labels beyond ASCII are written in
ASCII. -/
namespace ResourceSync.Domain

/-- Characters with a meaning of their own around a host, which no host may hold. -/
def isReserved (c : Char) : Bool :=
  ['\x00', '\t', '\n', '\r', ' ', '#', '/', ':', '<', '>', '?', '@', '[', '\\', ']', '^',
    '|'].contains c

/-- ASCII characters that no domain name may hold. -/
def isForbidden (c : Char) : Bool := isReserved c || c.toNat < 32 || c = '%' || c.toNat = 127

def isAscii (c : Char) : Bool := c.toNat < 128

/-- Whether a domain name may hold a character as it is. -/
def isAdmitted (c : Char) : Bool :=
  if isAscii c then !isForbidden c && !c.isUpper
  else !isDisallowed c && !isIgnored c && (replacements.image? c).isNone

/-- What a domain name holds in place of a character. -/
def replace (c : Char) : List Char :=
  if isAscii c then [c.toLower] else if isIgnored c then [] else (replacements.image? c).getD [c]

/-- The form of a domain name in which its labels are told apart. -/
def normal? (domain : List Char) : Option (List Char) :=
  let normal :=
    if domain.all isAscii then domain.map Char.toLower
    else Text.canonical (domain.flatMap replace)
  if normal.all isAdmitted then some normal else none

/-- The mark in front of a label that stands for one beyond ASCII. -/
def encodedMark : List Char := ['x', 'n', '-', '-']

/-- A label of a domain name: its text, and how it is written in ASCII. -/
structure Label where
  text : List Char
  written : List Char

/-- The most characters that are read after the mark in front. -/
def maxEncodedLength : Nat := 2000

/-- The most characters that a label beyond ASCII holds. -/
def maxTextLength : Nat := 1000

/-- Whether a text beyond ASCII can be a label. -/
def isLabelText (text : List Char) : Bool :=
  text.length ≤ maxTextLength && !(text.head?.map Text.isMark).getD false && joinersInPlace [] text

/-- The text that a label stands for, where `encoded` follows the mark in front. It has to be a text
in normal form. -/
def decodedText? (encoded : List Char) : Option (List Char) :=
  if !encoded.all isAscii || encoded.getLast? == some '-' || encoded.isEmpty ||
      maxEncodedLength < encoded.length then none
  else
    (Punycode.decode? encoded).filter fun text =>
      text.all isAdmitted && isLabelText text && Text.canonical text == text

def Label.ofText? (s : List Char) : Option Label :=
  match Text.after? encodedMark s with
  | some encoded => (decodedText? encoded).map fun text => ⟨text, s⟩
  | none =>
    if s.all isAscii then some ⟨s, s⟩
    else if isLabelText s then some ⟨s, encodedMark ++ Punycode.encode s⟩
    else none

/-- Whether a label holds a character that is written from right to left. -/
def hasFromRight (label : List Char) : Bool :=
  label.any fun c => !isAscii c && (direction c).isFromRight

/-- The ASCII form of a domain name, if it has one. Where one label is written from right to left,
all labels have to keep their order. -/
def toAscii? (domain : List Char) : Option (List Char) := do
  let labels ← (Text.splitOn '.' (← normal? domain)).mapM Label.ofText?
  let texts := labels.map Label.text
  if texts.any hasFromRight && !texts.all isOrdered then none
  else some (['.'].intercalate (labels.map Label.written))

example : toAscii? "EXAMPLE.org".toList = some "example.org".toList := by decide +kernel

end ResourceSync.Domain
