import ResourceSync.Remote.Error

/-! Failures of a pass: a typed cause, and the circumstances in which it arose. -/
namespace ResourceSync

/-- The short names under which the outcomes of passes are published. -/
inductive Reason where
  | created
  | updated
  | deleted
  | outOfScope
  | reconcileFailed
  | remoteNotFound
  | remoteRejected
  | remoteAuthFailed
  | remoteThrottled
  | remoteUnavailable
  | remoteUnreachable
  | invalidSpec
deriving DecidableEq, Repr

def Reason.name : Reason → String
  | created => "Created"
  | updated => "Updated"
  | deleted => "Deleted"
  | outOfScope => "OutOfScope"
  | reconcileFailed => "ReconcileFailed"
  | remoteNotFound => "RemoteNotFound"
  | remoteRejected => "RemoteRejected"
  | remoteAuthFailed => "RemoteAuthFailed"
  | remoteThrottled => "RemoteThrottled"
  | remoteUnavailable => "RemoteUnavailable"
  | remoteUnreachable => "RemoteUnreachable"
  | invalidSpec => "InvalidSpec"

/-- What a status code of the platform means for a resource. -/
def HttpStatus.reason (s : HttpStatus) : Reason :=
  if s = 400 ∨ s = 422 then .remoteRejected
  else if s = 401 ∨ s = 403 then .remoteAuthFailed
  else if s = 404 then .remoteNotFound
  else if s = 429 then .remoteThrottled
  else if 500 ≤ s ∧ s ≤ 599 then .remoteUnavailable
  else .reconcileFailed

def HttpStatus.explanation (s : HttpStatus) : String :=
  match s.reason with
  | .remoteRejected => s!"Management API rejected the request ({s})"
  | .remoteAuthFailed => s!"Management API refused the credentials ({s})"
  | .remoteNotFound => s!"Remote entity not found ({s})"
  | .remoteThrottled => s!"Management API rate limit exceeded ({s})"
  | .remoteUnavailable => s!"Management API unavailable ({s})"
  | _ => s!"Unexpected HTTP status from management API ({s})"

/-- What made a pass fail. -/
inductive FailureCause where
  | remote (e : RemoteError)
  | invalidSpec (message : String)
  | other (message : String)
deriving DecidableEq, Repr

namespace FailureCause

def chain : FailureCause → List String
  | remote e => e.chain
  | invalidSpec message => [s!"invalid spec: {message}"]
  | other message => [message]

def reason : FailureCause → Reason
  | invalidSpec _ => .invalidSpec
  | other _ => .reconcileFailed
  | remote e =>
    match e with
    | .transport .. => .remoteUnreachable
    | .unreadable .. | .invalidEndpoint _ => .reconcileFailed
    | .notFound _ => .remoteNotFound
    | .api _ _ status _ => status.reason

end FailureCause

/-- A cause and the circumstances around it, the outermost first. -/
structure Failure where
  contexts : List String
  cause : FailureCause
deriving DecidableEq, Repr

namespace Failure

def ofCause (cause : FailureCause) : Failure := ⟨[], cause⟩

def ofRemote (e : RemoteError) : Failure := ofCause (.remote e)

def ofMessage (message : String) : Failure := ofCause (.other message)

/-- The failure seen from further out. -/
def within (context : String) (f : Failure) : Failure :=
  { f with contexts := context :: f.contexts }

/-- The circumstances and the causes, from the outside in. -/
def text (f : Failure) : String := ": ".intercalate (f.contexts ++ f.cause.chain)

/-- The reason depends on the cause alone. -/
def reason (f : Failure) : Reason := f.cause.reason

end Failure

end ResourceSync
