import ResourceSync.Text.Cut

/-! Request targets: what of a text is the path and what is the query of a request. -/
namespace ResourceSync

/-- What a request is made for. -/
structure RequestTarget where
  path : String
  query : Option String
deriving DecidableEq, Repr

namespace RequestTarget

/-- Characters that neither a path nor a query may hold. -/
def isBarred (c : Char) : Bool := c.toNat ≤ 32 || c = '<' || c = '>' || c.toNat = 127

def isPathChar (c : Char) : Bool := !isBarred c && c ≠ '\x60'

def isQueryChar (c : Char) : Bool := !isBarred c && c ≠ '"'

/-- The octets that a target has at most. -/
def sizeLimit : Nat := 65534

/-- The target that a path with all that follows it denotes. From a number sign on the text does not
count. -/
def ofText? (s : String) : Option RequestTarget :=
  let text := s.toList.takeWhile (· ≠ '#')
  let path := text.takeWhile (· ≠ '?')
  let query := text.drop path.length
  if s.utf8ByteSize ≤ sizeLimit && path.all isPathChar && (query.drop 1).all isQueryChar then
    some ⟨String.ofList path, if query.isEmpty then none else some (String.ofList (query.drop 1))⟩
  else none

/-- What follows the scheme and the authority of a text that begins with them. -/
def relative (s : String) : String :=
  match Text.cut? [':', '/', '/'] s.toList with
  | none => s
  | some (scheme, rest) =>
    let isSchemeChar := fun c : Char => c.isAlphanum || c = '+' || c = '-' || c = '.'
    if scheme.isEmpty || !scheme.all isSchemeChar then s
    else
      let path := rest.dropWhile fun c => c ≠ '/' && c ≠ '?' && c ≠ '#'
      String.ofList (if path.head? == some '/' then path else '/' :: path)

end RequestTarget

end ResourceSync
