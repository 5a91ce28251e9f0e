/-! Properties of characters as ranges of code points. -/
namespace ResourceSync.Text

/-- First and last code point of each range. -/
abbrev Ranges := List (Nat × Nat)

def Ranges.contains (rs : Ranges) (c : Char) : Bool :=
  rs.any fun (first, last) => first ≤ c.toNat && c.toNat ≤ last

/-- Ranges of code points with the value that each range has. -/
abbrev RangeMap (α : Type) := List (Nat × Nat × α)

def RangeMap.get? {α : Type} (rs : RangeMap α) (c : Char) : Option α :=
  (rs.find? fun (first, last, _) => first ≤ c.toNat && c.toNat ≤ last).map fun (_, _, a) => a

example : Ranges.contains [(0x30, 0x39), (0x41, 0x46)] 'F' = true := by decide

example : Ranges.contains [(0x30, 0x39), (0x41, 0x46)] 'G' = false := by decide

example : RangeMap.get? [(0x30, 0x39, 1), (0x41, 0x46, 2)] 'F' = some 2 := by decide

end ResourceSync.Text
