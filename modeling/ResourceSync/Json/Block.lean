import ResourceSync.Json.Basic
import ResourceSync.Text.Cut

/-! Documents in block form: a line for each scalar, and nesting by indentation. -/
namespace ResourceSync

namespace Json

/-- The characters that mean something at the start of a scalar. -/
def leadingIndicators : List Char :=
  ['#', ',', '[', ']', '\x7b', '\x7d', '&', '*', '!', '|', '>', '\x27', '"', '%', '@', '\x60']

/-- Words that stand for something other than text. -/
def reservedWords : List String :=
  ["null", "~", "true", "false", "yes", "no", "on", "off", "y", "n"]

/-- Whether a text holds a mark that ends a plain scalar: a colon before a blank or at the end, or a
number sign behind a blank. -/
def hasMark : List Char → Bool
  | [] => false
  | [c] => c = ':'
  | c :: d :: r => (c = ':' && d = ' ') || (c = ' ' && d = '#') || hasMark (d :: r)

/-- Whether a text of one line can stand without quotes and is read as a text again. -/
def isPlain (s : String) : Bool :=
  match s.toList with
  | [] => false
  | c :: r =>
    let dashed := ['-', '?', ':'].contains c && (r.isEmpty || r.head? = some ' ')
    !(leadingIndicators.contains c || dashed || c = ' ' || r.getLast? = some ' ' || c.isDigit ||
      hasMark (c :: r) || reservedWords.contains s.toLower)

/-- A text of one line as a scalar. Inside single quotes only the quote itself is doubled. -/
def scalarText (s : String) : String :=
  if isPlain s then s
  else
    String.ofList ('\x27' :: s.toList.flatMap (fun c => if c = '\x27' then [c, c] else [c]) ++
      ['\x27'])

/-- The value of a name, as far as it fits on the line of the name. -/
def inline? : Json → Option String
  | .null | .unreadable _ => some "null"
  | .bool b => some (if b then "true" else "false")
  | .int n => some (toString n)
  | .float x => some x.compact
  | .str s => if s.toList.contains '\n' then none else some (scalarText s)
  | .arr items => if items.isEmpty then some "[]" else none
  | .obj ms => if ms.isEmpty then some "\x7b\x7d" else none

/-- Moves a line to the right; lines without text stay empty. -/
def indented (line : String) : String := if line.isEmpty then line else "  " ++ line

/-- The lines of one item of a list. -/
def dashed : List String → List String
  | [] => []
  | line :: lines => ("- " ++ line) :: lines.map indented

/-- A text of several lines: how its end is kept, and the lines. -/
def literal (s : String) : String × List String :=
  let lines := (Text.splitOn '\n' s.toList).map String.ofList
  match s.toList.reverse with
  | '\n' :: '\n' :: _ => ("|+", lines.dropLast.map indented)
  | '\n' :: _ => ("|", lines.dropLast.map indented)
  | _ => ("|-", lines.map indented)

mutual

/-- The lines of a document. The items of a list are not indented below its name. -/
def blockLines : Json → List String
  | .arr items => itemLines items
  | .obj ms => memberLines ms
  | .str s => (literal s).1 :: (literal s).2
  | j => (inline? j).toList

def itemLines : List Json → List String
  | [] => []
  | j :: r =>
    match inline? j with
    | some text => ("- " ++ text) :: itemLines r
    | none => dashed (blockLines j) ++ itemLines r

def memberLines : List (String × Json) → List String
  | [] => []
  | (n, v) :: r =>
    match inline? v, v with
    | some text, _ => (scalarText n ++ ": " ++ text) :: memberLines r
    | none, .arr items => (scalarText n ++ ":") :: (itemLines items ++ memberLines r)
    | none, .str s => (scalarText n ++ ": " ++ (literal s).1) :: ((literal s).2 ++ memberLines r)
    | none, v => (scalarText n ++ ":") :: ((blockLines v).map indented ++ memberLines r)

end

/-- The text of a document in block form. -/
def blockText (j : Json) : String :=
  String.join ((blockLines j).map fun line => line ++ "\n")

example : blockText (.obj [("a", .arr [.obj [("b", .str "x: y"), ("c", .arr [])], .int 1]),
    ("d", .obj [("e", .null)])]) =
    "a:\n- b: 'x: y'\n  c: []\n- 1\nd:\n  e: null\n" := by decide +kernel

example : blockText (.obj [("a", .str "b\n\nc")]) = "a: |-\n  b\n\n  c\n" := by decide +kernel

end Json

end ResourceSync
