/-! The vocabulary of HTTP. -/
namespace ResourceSync

inductive HttpMethod where
  | get
  | post
  | put
  | patch
  | delete
deriving DecidableEq, Repr

def HttpMethod.name : HttpMethod → String
  | get => "GET"
  | post => "POST"
  | put => "PUT"
  | patch => "PATCH"
  | delete => "DELETE"

/-- A status code. -/
abbrev HttpStatus := UInt16

namespace HttpStatus

def isSuccess (s : HttpStatus) : Bool := 200 ≤ s && s < 300

/-- Whether the code blames the request or the server. -/
def isFailure (s : HttpStatus) : Bool := 400 ≤ s && s < 600

def notFound : HttpStatus := 404

/-- Whether the code is one that an answer can carry. -/
def isCode (s : HttpStatus) : Bool := 100 ≤ s && s < 1000

/-- Whether a request that was answered so may succeed when it is sent again. -/
def isRetryable (s : HttpStatus) : Bool := [429, 500, 502, 503, 504].contains s

end HttpStatus

end ResourceSync
