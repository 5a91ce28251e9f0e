/-! Cutting a text at a separator. -/
namespace ResourceSync.Text

/-- The parts between the occurrences of a character, empty parts included. -/
def splitOn (sep : Char) : List Char → List (List Char)
  | [] => [[]]
  | c :: r =>
    if c = sep then [] :: splitOn sep r
    else
      match splitOn sep r with
      | [] => [[c]]
      | part :: parts => (c :: part) :: parts

/-- What stands after `start`, where the text begins with it. -/
def after? : List Char → List Char → Option (List Char)
  | [], s => some s
  | _ :: _, [] => none
  | p :: ps, c :: r => if p = c then after? ps r else none

/-- What stands before and after the first occurrence of `sep`. -/
def cut? (sep : List Char) : List Char → Option (List Char × List Char)
  | [] => if sep.isEmpty then some ([], []) else none
  | c :: r =>
    match after? sep (c :: r) with
    | some rest => some ([], rest)
    | none => (cut? sep r).map fun (before, rest) => (c :: before, rest)

/-- What stands before and after the last occurrence of `c`. -/
def cutLast? (c : Char) (s : List Char) : Option (List Char × List Char) :=
  (cut? [c] s.reverse).map fun (rest, before) => (before.reverse, rest.reverse)

example : cut? ['=', '='] "a===b".toList = some (['a'], ['=', 'b']) := by decide

example : cutLast? ')' "a)b)c".toList = some ("a)b".toList, ['c']) := by decide

end ResourceSync.Text
