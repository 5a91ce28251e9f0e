import ResourceSync.Http.Basic

/-! Failures of the management platform, and the words in which they are reported. -/
namespace ResourceSync

inductive RemoteError where
  /-- There is no such entity. -/
  | notFound (path : String)
  /-- The platform refused or failed the request. -/
  | api (method path : String) (status : HttpStatus) (message : String)
  /-- The request got no answer; the causes stand outermost first. -/
  | transport (method path : String) (causes : List String)
  /-- The answer is not of the expected shape. -/
  | unreadable (method path reason : String)
  /-- The address of the platform has no path that resources can be put under. -/
  | invalidEndpoint (url : String)
deriving DecidableEq, Repr

namespace RemoteError

/-- What failed, without the causes behind it. -/
def headline : RemoteError → String
  | notFound path => s!"remote entity not found at {path}"
  | api method path status message => s!"{method} {path} failed with HTTP {status}: {message}"
  | transport method path _ => s!"{method} {path} could not reach the management API"
  | unreadable method path reason => s!"{method} {path} returned an unreadable body: {reason}"
  | invalidEndpoint url =>
    s!"management API URL {url} cannot be used as a base for resource paths"

/-- The headline, with the nearest cause where there is one. -/
def message (e : RemoteError) : String :=
  match e with
  | transport _ _ (cause :: _) => s!"{e.headline}: {cause}"
  | e => e.headline

/-- The message and the messages of all causes behind it. -/
def chain (e : RemoteError) : List String :=
  match e with
  | transport _ _ causes => e.message :: causes
  | e => [e.message]

def isNotFound : RemoteError → Bool
  | notFound _ => true
  | _ => false

/-- Whether the same request may succeed when it is sent again. -/
def isRetryable : RemoteError → Bool
  | api _ _ status _ => status.isCode && status.isRetryable
  | transport .. => true
  | _ => false

/-- The status of the answer, where the failure is one of status. -/
def statusCode? : RemoteError → Option HttpStatus
  | notFound _ => some HttpStatus.notFound
  | api _ _ status _ => some status
  | _ => none

end RemoteError

end ResourceSync
