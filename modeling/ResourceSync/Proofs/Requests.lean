import Mathlib.Data.List.Basic
import ResourceSync.Remote.Client

/-! What a client sends to the platform and what it makes of the answers: each call is one request,
sent again only while the answers may change, and the last answer decides. -/
namespace ResourceSync

variable {k : Kind} {α σ : Type}

section retrying
variable (pause : StateM σ Unit) (call : StateM σ (Except RemoteError α))

/-- The state before each attempt, when one follows the other whatever becomes of them. -/
def beforeAttempt (s : σ) : Nat → σ
  | 0 => s
  | n + 1 => beforeAttempt (pause.run (call.run s).2).2 n

/-- Whether a call failed in a way that may pass. -/
def mayPass : Except RemoteError α → Bool
  | .ok _ => false
  | .error e => e.isRetryable

theorem retrying_of_mayPass {s : σ} (h : mayPass (call.run s).1 = true) (further : Nat) :
    (retrying pause call (further + 1)).run s =
      (retrying pause call further).run (pause.run (call.run s).2).2 := by
  rw [retrying, StateT.run_bind]
  rcases hcall : call.run s with ⟨e | a, s'⟩ <;> rw [hcall] at h
  · change e.isRetryable = true at h
    change StateT.run (if e.isRetryable = true then _ else _) s' = _
    rw [if_pos h]
    rfl
  · cases h

theorem retrying_of_not_mayPass {s : σ} (h : mayPass (call.run s).1 = false) (further : Nat) :
    (retrying pause call (further + 1)).run s = call.run s := by
  rw [retrying, StateT.run_bind]
  rcases hcall : call.run s with ⟨e | a, s'⟩ <;> rw [hcall] at h
  · change e.isRetryable = false at h
    change StateT.run (if e.isRetryable = true then _ else _) s' = _
    rw [if_neg (Bool.eq_false_iff.1 h)]
    rfl
  · rfl

/-- The loop ends with the first attempt that does not fail in passing, or when the attempts are
used up. -/
theorem retrying_run (further : Nat) (s : σ) : ∃ n ≤ further,
    (∀ i < n, mayPass (call.run (beforeAttempt pause call s i)).1 = true) ∧
      (n < further → mayPass (call.run (beforeAttempt pause call s n)).1 = false) ∧
      (retrying pause call further).run s = call.run (beforeAttempt pause call s n) := by
  induction further generalizing s with
  | zero => exact ⟨0, Nat.le_refl 0, by simp, by simp, rfl⟩
  | succ further ih =>
    cases h : mayPass (call.run s).1 with
    | false =>
      exact ⟨0, Nat.zero_le _, by simp, fun _ => h, retrying_of_not_mayPass pause call h further⟩
    | true =>
      obtain ⟨n, hn, hpassed, hlast, hrun⟩ := ih (pause.run (call.run s).2).2
      refine ⟨n + 1, Nat.succ_le_succ hn, ?_, fun hlt => hlast (Nat.lt_of_succ_lt_succ hlt), ?_⟩
      · intro i hi
        cases i with
        | zero => exact h
        | succ i => exact hpassed i (Nat.lt_of_succ_lt_succ hi)
      · rw [retrying_of_mayPass pause call h, hrun]
        rfl

end retrying

/-- A network behind which a platform answers the first request with the first of the answers, and
so on. What was sent is kept. -/
def scripted (answers : Nat → RemoteAnswer) : Network (StateM (List RemoteRequest)) where
  send r := modifyGet fun sent => (answers sent.length, sent ++ [r])
  pause _ := pure ()

/-- The request that a client sends. -/
def ManagementClient.written (c : ManagementClient) (method : HttpMethod) (url : Url)
    (body : Option Json) : RemoteRequest :=
  ⟨method, url, "Bearer " ++ c.apiKey, userAgent, body⟩

/-- The calls on a collection. -/
inductive RemoteCall (k : Kind) : Type → Type where
  | create (body : k.Body) : RemoteCall k String
  | get (id : String) : RemoteCall k (Entity k.Body)
  | update (id : String) (body : k.Body) : RemoteCall k (Entity k.Body)
  | delete (id : String) : RemoteCall k Unit

namespace RemoteCall

def method : RemoteCall k α → HttpMethod
  | create _ => .post
  | get _ => .get
  | update _ _ => .put
  | delete _ => .delete

def sentBody? : RemoteCall k α → Option Json
  | create body | update _ body => some (k.bodyLayout.codec.encode body)
  | get _ | delete _ => none

/-- How often the request may be sent. -/
def attempts (p : RetryPolicy) : RemoteCall k α → Nat
  | create _ => 1
  | get _ | update _ _ | delete _ => max 1 p.maxAttempts.toNat

/-- A text is a document from which a value is read. -/
def Decodes (codec : Codec α) (text : String) (a : α) : Prop :=
  ∃ j, Json.ofText text = .ok j ∧ codec.decode j = .ok a

/-- The body of an answer with success gives the value. That of an answer to a deletion is not looked
at. -/
def Reads : {α : Type} → RemoteCall k α → String → α → Prop
  | _, create _ => Decodes createdId
  | _, get _ | _, update _ _ => Decodes k.entityCodec
  | _, delete _ => fun _ _ => True

/-- The request that the call stands for. -/
def request (c : ResourceClient k) (call : RemoteCall k α) (url : Url) : RemoteRequest :=
  c.client.written call.method url call.sentBody?

end RemoteCall

section decides
variable {request : RemoteRequest} {reads : String → α → Prop}
  {read : String → Except RemoteError α} {status : HttpStatus} {text reason : String} {a : α}

end decides

namespace ManagementClient
variable {c : ManagementClient} {answers : Nat → RemoteAnswer} {method : HttpMethod} {url : Url}
  {body : Option Json}

end ManagementClient

namespace RemoteCall
variable {c : ResourceClient k} {url : Url} (answers : Nat → RemoteAnswer)

/-- The sending of the request, before its answer is read. -/
def sending {m : Type → Type} [Monad m] (c : ResourceClient k) (net : Network m) (url : Url)
    (call : RemoteCall k α) : m (Except RemoteError String) :=
  match call with
  | create body =>
    c.client.requestOnce net .post url (some (k.bodyLayout.codec.encode body))
  | get _ => c.client.request net .get url none
  | update _ body => c.client.request net .put url (some (k.bodyLayout.codec.encode body))
  | delete _ => c.client.request net .delete url none

end RemoteCall

end ResourceSync
