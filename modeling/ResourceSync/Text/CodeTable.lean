import ResourceSync.Text.Cut
import ResourceSync.Text.Hexadecimal

/-! Tables from code points to sequences of code points, in a short hexadecimal notation:
`C0:41.300` is a single entry, `41-5A:61` a range whose images ascend with it, and `100-12E/2:101`
takes every second code point only. -/
namespace ResourceSync.Text

/-- The entries for the code points from `first` to `last` in steps of `step`. -/
structure CodeRow where
  first : Nat
  last : Nat
  step : Nat
  image : List Nat
deriving Repr, DecidableEq

abbrev CodeTable := List CodeRow

def CodeRow.ofText (s : List Char) : CodeRow :=
  let (codes, image) := (cut? [':'] s).getD (s, [])
  let (range, step) := (cut? ['/'] codes).getD (codes, ['1'])
  let (first, last) := (cut? ['-'] range).getD (range, range)
  ⟨hexNumber first, hexNumber last, hexNumber step, (splitOn '.' image).map hexNumber⟩

def CodeTable.ofLines (lines : List String) : CodeTable :=
  lines.flatMap fun line => (splitOn ' ' line.toList).map CodeRow.ofText

def CodeRow.contains (row : CodeRow) (n : Nat) : Bool :=
  row.first ≤ n && n ≤ row.last && (n - row.first) % row.step == 0

/-- The sequence that a character is mapped to. -/
def CodeTable.image? (table : CodeTable) (c : Char) : Option (List Char) :=
  (table.find? (·.contains c.toNat)).map fun row =>
    row.image.map fun n => Char.ofNat (n + (c.toNat - row.first))

example : CodeRow.ofText "100-12E/2:101".toList = ⟨0x100, 0x12E, 2, [0x101]⟩ := by decide +kernel

example : CodeTable.image? [⟨0x100, 0x12E, 2, [0x101]⟩] 'Ą' = some ['ą'] := by decide

example : CodeTable.image? [⟨0x100, 0x12E, 2, [0x101]⟩] 'ą' = none := by decide

end ResourceSync.Text
