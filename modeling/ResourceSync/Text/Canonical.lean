import ResourceSync.Text.Canonical.Class
import ResourceSync.Text.Canonical.Composite
import ResourceSync.Text.Canonical.Syllable

/-! The canonical form of a text: marks stand in the order of their classes, and each letter is
joined with the marks on it where one character stands for both. -/
namespace ResourceSync.Text

/-- The parts that a character consists of, where no part is composite itself. Only the first part
of a composite can be one; `depth` bounds how often. -/
def canonicalParts (depth : Nat) (c : Char) : List Char :=
  match depth with
  | 0 => [c]
  | depth + 1 =>
    match splitSyllable? c with
    | some letters => letters
    | none =>
      match composites.image? c with
      | some (first :: rest) => canonicalParts depth first ++ rest
      | _ => [c]

/-- Puts a character in front of a text whose marks are in order: a mark passes those of a lower
class. -/
def insertMark (c : Char) : List Char → List Char
  | [] => [c]
  | d :: r =>
    if 0 < combiningClass d && combiningClass d < combiningClass c then d :: insertMark c r
    else c :: d :: r

/-- The character that stands for a pair. -/
def composite? (a b : Char) : Option Char :=
  match joinSyllable? a b with
  | some c => some c
  | none =>
    (composites.find? fun row => row.image == [a.toNat, b.toNat]).map fun row =>
      Char.ofNat row.first

/-- Joins a letter with what follows it. The marks that did not join are in `passed`, last first: a
mark is out of reach behind one of its own class or a higher one. -/
def joinFrom (letter : Char) (passed : List Char) : List Char → List Char
  | [] => letter :: passed.reverse
  | c :: r =>
    let isNear := match passed with
      | [] => true
      | d :: _ => combiningClass d < combiningClass c
    match if isNear then composite? letter c else none with
    | some joined => joinFrom joined passed r
    | none =>
      if combiningClass c = 0 then letter :: (passed.reverse ++ joinFrom c [] r)
      else joinFrom letter (c :: passed) r

/-- Joins each letter with the marks on it. -/
def joinAll : List Char → List Char
  | [] => []
  | c :: r => if combiningClass c = 0 then joinFrom c [] r else c :: joinAll r

/-- The canonical form of a text. -/
def canonical (s : List Char) : List Char :=
  joinAll ((s.flatMap (canonicalParts 4)).foldr insertMark [])

end ResourceSync.Text
