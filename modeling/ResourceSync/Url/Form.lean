import ResourceSync.Text.Cut
import ResourceSync.Text.Octets
import ResourceSync.Url.Percent

/-! Names and values as the query of a request writes them. -/
namespace ResourceSync.Form

/-- What is written in percent notation: all but letters, digits and four signs. -/
def escaped : Percent.EscapeSet := fun c => !(c.isAlphanum || ['*', '-', '.', '_'].contains c)

/-- A name or a value. A blank is written as a plus sign. -/
def encodePart (s : String) : List Char :=
  s.toList.flatMap fun c => if c = ' ' then ['+'] else Percent.encodeChar escaped c

def encodePair (e : String × String) : List Char := encodePart e.1 ++ '=' :: encodePart e.2

def decodePart (s : List Char) : String :=
  Text.ofOctets (Percent.decode (s.map fun c => if c = '+' then ' ' else c))

def decodePair (s : List Char) : String × String :=
  let (name, value) := (Text.cut? ['='] s).getD (s, [])
  (decodePart name, decodePart value)

/-- The names and values of a query, in its order. Empty parts are passed over. -/
def decode (query : List Char) : List (String × String) :=
  ((Text.splitOn '&' query).filter fun part => !part.isEmpty).map decodePair

example : decode "&a=b+c%3D&&d".toList = [("a", "b c="), ("d", "")] := by decide +kernel

end ResourceSync.Form
