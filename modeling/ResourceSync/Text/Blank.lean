/-! White space in the sense of the Unicode property, and the cuts that go by it. -/
namespace ResourceSync.Text

/-- Characters with the property White_Space. -/
def isBlank (c : Char) : Bool :=
  let n := c.toNat
  (9 ≤ n && n ≤ 13) || n == 0x20 || n == 0x85 || n == 0xA0 || n == 0x1680 ||
    (0x2000 ≤ n && n ≤ 0x200A) || n == 0x2028 || n == 0x2029 || n == 0x202F || n == 0x205F ||
    n == 0x3000

/-- The text from its last character that fails `p` back to the start. -/
def dropEndWhile (p : Char → Bool) (s : List Char) : List Char :=
  (s.reverse.dropWhile p).reverse

/-- The text without the blanks at both ends. -/
def trim (s : List Char) : List Char := dropEndWhile isBlank (s.dropWhile isBlank)

/-- The longest runs of characters other than blanks, in order. -/
def words (s : List Char) : List (List Char) := go [] s
where
  /-- The argument `word` holds the run so far, last character first. -/
  go (word : List Char) : List Char → List (List Char)
    | [] => close word []
    | c :: r => if isBlank c then close word (go [] r) else go (c :: word) r
  close (word : List Char) (rest : List (List Char)) : List (List Char) :=
    if word.isEmpty then rest else word.reverse :: rest

example : words "  in  \u3000notin ".toList = ["in".toList, "notin".toList] := by decide

end ResourceSync.Text
