import ResourceSync.Http.Basic
import ResourceSync.Json.Reader
import ResourceSync.Kind.Basic
import ResourceSync.Remote.Retry

/-! The client of the management platform: one collection of entities over HTTP. -/
namespace ResourceSync

/-- A request to the platform. A body is sent as a document. -/
structure RemoteRequest where
  method : HttpMethod
  url : Url
  authorization : String
  userAgent : String
  body : Option Json

/-- What became of a request: an answer with its body, or none for the causes given. -/
inductive RemoteAnswer where
  | response (status : HttpStatus) (body : String)
  | unreachable (causes : List String)
deriving DecidableEq, Repr

/-- A way to send requests and to let time pass between them. -/
structure Network (m : Type → Type) where
  send : RemoteRequest → m RemoteAnswer
  pause : Duration → m Unit

/-- The address of a platform and how it is talked to. -/
structure ManagementClient where
  baseUrl : Url
  apiKey : String
  retry : RetryPolicy

namespace ManagementClient

/-- A client for an address with a path to put resources under. -/
def ofUrl (baseUrl : Url) (apiKey : String) (retry : RetryPolicy) :
    Except RemoteError ManagementClient :=
  if baseUrl.isBare then .error (.invalidEndpoint baseUrl.text) else .ok ⟨baseUrl, apiKey, retry⟩

/-- The version by which the program names itself. -/
def version : String := "0.3.0"

def userAgent : String := "obsync/" ++ version

/-- The client in words that keep the key to itself. -/
def debugText (c : ManagementClient) : String :=
  "ManagementClient \x7b base_url: " ++ Text.quoted c.baseUrl.text ++
    ", api_key: \"<redacted>\", retry: " ++ c.retry.debugText ++ ", .. \x7d"

/-- Where a collection or one of its entities is found. -/
def endpoint (c : ManagementClient) (collection : String) (id : Option String) :
    Except RemoteError Url :=
  let names := (Text.splitOn '/' collection.toList).filter fun s => !s.isEmpty
  match c.baseUrl.extend? (names.map String.ofList ++ id.toList) with
  | some url => .ok url
  | none => .error (.invalidEndpoint c.baseUrl.text)

/-- Whether a key can stand in a header. -/
def isSendable (key : String) : Bool :=
  key.toUTF8.data.all fun b => b = 9 || (32 ≤ b && b ≠ 127)

section
variable {m : Type → Type} [Monad m]

/-- Sends one request and sorts out its answer. -/
def requestOnce (c : ManagementClient) (net : Network m) (method : HttpMethod) (url : Url)
    (body : Option Json) : m (Except RemoteError String) := do
  let path := url.pathText
  if !isSendable c.apiKey then
    return .error (.transport method.name path ["builder error", "failed to parse header value"])
  match ← net.send ⟨method, url, "Bearer " ++ c.apiKey, userAgent, body⟩ with
  | .unreachable causes => return .error (.transport method.name path causes)
  | .response status text =>
    if status = HttpStatus.notFound then return .error (.notFound path)
    else if status.isSuccess then return .ok text
    else return .error (.api method.name path status text)

/-- Sends a request that may be repeated without harm. -/
def request (c : ManagementClient) (net : Network m) (method : HttpMethod) (url : Url)
    (body : Option Json) : m (Except RemoteError String) :=
  retrying (net.pause c.retry.interval) (c.requestOnce net method url body) c.retry.furtherAttempts

end

/-- The body of an answer as a value. -/
def readAnswer {α : Type} (codec : Codec α) (method : HttpMethod) (url : Url) (text : String) :
    Except RemoteError α :=
  let unreadable := fun reason => RemoteError.unreadable method.name url.pathText reason
  match Json.ofText text with
  | .error e => .error (unreadable e.message)
  | .ok j => (codec.decode j).mapError fun e => unreadable e.message

end ManagementClient

/-- The identifier in the answer to a creation; the rest of it is not kept. -/
def createdId : Codec String :=
  Layout.codec (.record "CreateResponse" (.cons (.required "id" .text) .nil) (fun id => (id, ()))
    fun (id, ()) => id)

/-- One collection of a platform. -/
structure ResourceClient (k : Kind) where
  client : ManagementClient
  collection : String

namespace ResourceClient
variable {k : Kind} {m : Type → Type} [Monad m]

def debugText (c : ResourceClient k) : String :=
  "ResourceClient \x7b kind: " ++ Text.quoted k.name ++ ", collection: " ++
    Text.quoted c.collection ++ ", client: " ++ c.client.debugText ++ " \x7d"

/-- Creates an entity. The request is sent once: one without an answer may have created it all the
same. -/
def create (c : ResourceClient k) (net : Network m) (body : k.Body) :
    m (Except RemoteError String) :=
  match c.client.endpoint c.collection none with
  | .error e => return .error e
  | .ok url => do
    let answer ← c.client.requestOnce net .post url (some (k.bodyLayout.codec.encode body))
    return answer.bind (ManagementClient.readAnswer createdId .post url)

def get (c : ResourceClient k) (net : Network m) (id : String) :
    m (Except RemoteError (Entity k.Body)) :=
  match c.client.endpoint c.collection (some id) with
  | .error e => return .error e
  | .ok url => do
    let answer ← c.client.request net .get url none
    return answer.bind (ManagementClient.readAnswer k.entityCodec .get url)

def update (c : ResourceClient k) (net : Network m) (id : String) (body : k.Body) :
    m (Except RemoteError (Entity k.Body)) :=
  match c.client.endpoint c.collection (some id) with
  | .error e => return .error e
  | .ok url => do
    let answer ← c.client.request net .put url (some (k.bodyLayout.codec.encode body))
    return answer.bind (ManagementClient.readAnswer k.entityCodec .put url)

def delete (c : ResourceClient k) (net : Network m) (id : String) : m (Except RemoteError Unit) :=
  match c.client.endpoint c.collection (some id) with
  | .error e => return .error e
  | .ok url => return (← c.client.request net .delete url none).map fun _ => ()

end ResourceClient

end ResourceSync
