import ResourceSync.Http.Basic
import ResourceSync.Http.Target
import ResourceSync.Json.Reader
import ResourceSync.Object.Resource
import ResourceSync.Url.Form

/-! Requests to the API server of the cluster, and what its answers mean. -/
namespace ResourceSync

/-- A request as the server gets it. -/
structure ApiRequest where
  method : HttpMethod
  path : String
  query : List (String × String)
  contentType : Option String
  body : Option Json

/-- A request as it is put together. The text of its target takes names as they are, so that a
question mark or a number sign in one cuts the path short. -/
structure ApiCall where
  method : HttpMethod
  target : String
  contentType : Option String
  body : Option Json

namespace ApiCall

/-- A path with parameters behind it. -/
def withParameters (path : String) (parameters : List (String × String)) : String :=
  path ++ String.ofList ('?' :: parameters.flatMap fun e => '&' :: Form.encodePair e)

/-- The request that is sent, where one can be. -/
def request? (c : ApiCall) : Option ApiRequest :=
  (RequestTarget.ofText? c.target).map fun t =>
    ⟨c.method, t.path, Form.decode (t.query.getD "").toList, c.contentType, c.body⟩

end ApiCall

structure ApiAnswer where
  status : HttpStatus
  body : String
deriving DecidableEq, Repr

/-- What the server reports about a request. -/
structure StatusReport where
  code : UInt16
  reason : String
deriving DecidableEq, Repr

/-- The metadata of a list. It is looked at and not kept. -/
def listMetadata : Layout Unit where
  Tuple := Option String × Option Int64 × Option String × Option String × Unit
  name := "ListMeta"
  listable := false
  repeats := true
  fields :=
    .cons (.optional "continue" .text) <|
    .cons (.optional "remainingItemCount" .int64) <|
    .cons (.optional "resourceVersion" .text) <|
    .cons (.optional "selfLink" .text) .nil
  toTuple _ := (none, none, none, none, ())
  ofTuple _ := ()

namespace StatusReport

/-- One cause of a failure, which is not kept. -/
def causeLayout : Layout Unit := .record "StatusCause"
  (.cons (.defaulted "reason" .text "") <|
    .cons (.defaulted "message" .text "") <|
    .cons (.defaulted "field" .text "") .nil)
  (fun _ => ("", "", "", ())) fun _ => ()

/-- The circumstances of a failure, which are not kept. -/
def detailsLayout : Layout Unit := .record "StatusDetails"
  (.cons (.defaulted "name" .text "") <|
    .cons (.defaulted "group" .text "") <|
    .cons (.defaulted "kind" .text "") <|
    .cons (.defaulted "uid" .text "") <|
    .cons (.defaulted "causes" (.list causeLayout.codec) []) <|
    .cons (.defaulted "retryAfterSeconds" .uint32 0) .nil)
  (fun _ => ("", "", "", "", [], 0, ())) fun _ => ()

/-- The layout of a report. What else it tells is looked at and not kept. -/
def layout : Layout StatusReport := .record "Status"
  (.cons (.optional "status" (.choice ["Success", "Failure"] id)) <|
    .cons (.defaulted "code" .uint16 0) <|
    .cons (.defaulted "message" .text "") <|
    .cons (.optional "metadata" listMetadata.codec) <|
    .cons (.defaulted "reason" .text "") <|
    .cons (.optional "details" detailsLayout.codec) .nil)
  (fun s => (none, s.code, "", none, s.reason, none, ()))
  (fun (_, code, _, _, reason, _, ()) => ⟨code, reason⟩)

end StatusReport

/-- Why a request to the API server failed. -/
inductive ApiError where
  /-- The server refused it with a code and a reason. -/
  | status (code : Nat) (reason : String)
  /-- The request could not be put together, and was not sent. -/
  | malformedRequest
  /-- The answer is not of the expected shape. -/
  | unreadable
deriving DecidableEq, Repr

namespace ApiError

def code? : ApiError → Option Nat
  | status code _ => some code
  | _ => none

/-- Whether the server says that there is no such object. The code alone does not say so. -/
def isNotFound : ApiError → Bool
  | status _ reason => reason = "NotFound"
  | _ => false

/-- The failure that an answer reports: the one in its body, where the body is a report, and else
the bare code. -/
def ofAnswer (a : ApiAnswer) : ApiError :=
  let report? := fun j => (StatusReport.layout.codec.decode j).toOption
  match (Json.ofText a.body).toOption.bind report? with
  | some report => status report.code.toNat report.reason
  | none => status a.status.toNat "Failed to parse error data"

end ApiError

/-- A failed request and the circumstances around it, the outermost first. -/
structure ApiFailure where
  contexts : List String
  error : ApiError
deriving DecidableEq, Repr

def ApiFailure.text (f : ApiFailure) : String := ": ".intercalate f.contexts

/-- A way to the API server. -/
structure ApiConnection (m : Type → Type) where
  send : ApiRequest → m ApiAnswer

namespace ApiConnection
variable {m : Type → Type} [Monad m]

/-- Sends a request and reads the answer. -/
def exchange {α : Type} (api : ApiConnection m) (call : ApiCall) (codec : Codec α) :
    m (Except ApiError α) := do
  let some request := call.request? | return .error .malformedRequest
  let answer ← api.send request
  if answer.status.isFailure then return .error (.ofAnswer answer)
  match Json.ofText answer.body with
  | .error _ => return .error .unreadable
  | .ok j =>
    match codec.decode j with
    | .ok a => return .ok a
    | .error _ => return .error .unreadable

end ApiConnection
end ResourceSync
