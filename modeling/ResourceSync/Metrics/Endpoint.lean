import ResourceSync.Http.Basic
import ResourceSync.Http.Target
import ResourceSync.Metrics.Exposition

/-! What the program answers over HTTP: its metrics, and whether it is alive and ready. -/
namespace ResourceSync

structure Endpoint where
  metrics : Metrics
  ready : Bool

structure HttpAnswer where
  status : HttpStatus
  contentType : Option String
  /-- The methods that would be allowed, where the given one is not. -/
  allow : Option String
  body : String
deriving DecidableEq, Repr

namespace HttpAnswer

def plain (status : HttpStatus) : HttpAnswer := ⟨status, none, none, ""⟩

end HttpAnswer

namespace Endpoint

/-- The answer to reading a path. -/
def page? (e : Endpoint) (path : String) : Option HttpAnswer :=
  match path with
  | "/metrics" =>
    some ⟨200, some "text/plain; version=0.0.4; charset=utf-8", none, e.metrics.text⟩
  | "/healthz" => some (.plain 200)
  | "/readyz" => some (.plain (if e.ready then 200 else 503))
  | _ => none

/-- The answer to a request. Of its target only the path is looked at. -/
def answer (e : Endpoint) (method target : String) : HttpAnswer :=
  let target := RequestTarget.ofText? (RequestTarget.relative target)
  match target.bind fun t => e.page? t.path with
  | none => .plain 404
  | some page =>
    if method = "GET" then page
    else if method = "HEAD" then { page with body := "" }
    else { HttpAnswer.plain 405 with allow := some "GET,HEAD" }

end Endpoint

end ResourceSync
