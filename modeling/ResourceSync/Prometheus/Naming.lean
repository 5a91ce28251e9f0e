/-! Names of generated alerts: the alert's own name in lower case, with hyphens between its
words. -/
namespace ResourceSync

def isAlphanumeric (c : Char) : Bool :=
  ('a' ≤ c && c ≤ 'z') || ('A' ≤ c && c ≤ 'Z') || ('0' ≤ c && c ≤ '9')

def isUpper (c : Char) : Bool := 'A' ≤ c && c ≤ 'Z'

/-- Whether a word ends between two characters that both belong to words. -/
def startsWord (before : Option Char) (c : Char) : Bool :=
  isUpper c && before.any fun p => isAlphanumeric p && !isUpper p

/-- Puts a hyphen behind what is written, unless one stands there or nothing does. The text is held
last character first. -/
def hyphenate (out : List Char) : List Char :=
  if out.isEmpty || out.head? == some '-' then out else '-' :: out

/-- Writes one character, `before` being the one that precedes it in the input. -/
def kebabStep (before : Option Char) (out : List Char) (c : Char) : List Char :=
  if isAlphanumeric c then c.toLower :: if startsWord before c then hyphenate out else out
  else hyphenate out

/-- Everything written from the input, last character first. -/
def kebabFrom (before : Option Char) (out : List Char) : List Char → List Char
  | [] => out
  | c :: r => kebabFrom (some c) (kebabStep before out c) r

/-- The letters and digits of a text in lower case, with single hyphens between its words. -/
def kebab (s : List Char) : List Char := ((kebabFrom none [] s).dropWhile (· == '-')).reverse

example : kebab "HTTPErrors_5xx Rate".toList = "httperrors-5xx-rate".toList := by decide

/-- The name of the alert that is generated from the alerting rule at a position. -/
def alertName (rule alert : String) (index : Nat) : String :=
  s!"{rule}-{String.ofList (kebab alert.toList)}-{index}"

end ResourceSync
