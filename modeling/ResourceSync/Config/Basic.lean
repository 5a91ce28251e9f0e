import ResourceSync.Config.Address
import ResourceSync.Config.Arguments
import ResourceSync.Remote.Client
import ResourceSync.Selector.Parser

/-! The configuration of the program, and what has to hold of it before anything starts. -/
namespace ResourceSync

structure Config where
  apiUrl : String
  apiKey : String
  labelSelector : String
  watchedNamespace : Option String
  errorRequeueSecs : Nat
  webhookSyncSecs : Nat
  concurrency : Nat
  metricsAddr : String
  leaderElection : Bool
  leaseName : String
  leaseNamespace : Option String
  remoteRetries : UInt32
  remoteRetryIntervalMs : Nat
  requestTimeoutSecs : Nat
  prometheusRules : Bool
deriving DecidableEq, Repr

inductive ConfigError where
  | invalidSelector (e : SelectorError)
  | invalidApiUrl (url reason : String)
  | missingApiKey
  | invalidMetricsAddr (addr : String)
deriving DecidableEq, Repr

def ConfigError.message : ConfigError → String
  | .invalidSelector e => e.message
  | .invalidApiUrl url reason => s!"invalid management API URL '{url}': {reason}"
  | .missingApiKey => "a management API key is required (--api-key or OBSYNC_API_KEY)"
  | .invalidMetricsAddr addr => s!"invalid metrics address '{addr}': invalid socket address syntax"

namespace Config

/-- The configuration with these values, and the default of every setting without one. -/
def ofValues (vs : SettingValues) : Config :=
  let text := fun s default => (vs.get? s).getD default
  let number := fun (s : Setting) (default : Nat) =>
    match s.form with
    | .number limit signed => ((vs.get? s).bind (SettingForm.number? limit signed)).getD default
    | _ => default
  let switch := fun s => vs.get? s == some "true"
  { apiUrl := text .apiUrl ""
    apiKey := text .apiKey ""
    labelSelector := text .labelSelector ""
    watchedNamespace := vs.get? .watchedNamespace
    errorRequeueSecs := number .errorRequeueSecs 30
    webhookSyncSecs := number .webhookSyncSecs 60
    concurrency := number .concurrency 4
    metricsAddr := text .metricsAddr "0.0.0.0:8080"
    leaderElection := switch .leaderElection
    leaseName := text .leaseName "obsync-leader"
    leaseNamespace := vs.get? .leaseNamespace
    remoteRetries := .ofNat (number .remoteRetries 3)
    remoteRetryIntervalMs := number .remoteRetryIntervalMs 500
    requestTimeoutSecs := number .requestTimeoutSecs 30
    prometheusRules := switch .prometheusRules }

def ofArguments (args : List String) (env : SortedMap String String) : Except UsageError Config :=
  (SettingValues.ofArguments args env).map ofValues

def optionalText : Option String → String
  | none => "None"
  | some s => "Some(" ++ Text.quoted s ++ ")"

/-- All settings in words, with the key kept back. -/
def debugText (c : Config) : String :=
  let fields : List (String × String) :=
    [("api_url", Text.quoted c.apiUrl), ("api_key", Text.quoted "<redacted>"),
      ("label_selector", Text.quoted c.labelSelector),
      ("namespace", optionalText c.watchedNamespace),
      ("error_requeue_secs", toString c.errorRequeueSecs),
      ("webhook_sync_secs", toString c.webhookSyncSecs),
      ("concurrency", toString c.concurrency), ("metrics_addr", Text.quoted c.metricsAddr),
      ("leader_election", toString c.leaderElection), ("lease_name", Text.quoted c.leaseName),
      ("lease_namespace", optionalText c.leaseNamespace),
      ("remote_retries", toString c.remoteRetries),
      ("remote_retry_interval_ms", toString c.remoteRetryIntervalMs),
      ("request_timeout_secs", toString c.requestTimeoutSecs),
      ("prometheus_rules", toString c.prometheusRules)]
  "Config \x7b " ++ ", ".intercalate (fields.map fun f => f.1 ++ ": " ++ f.2) ++ " \x7d"

/-- The address of the platform, which is talked to over HTTP only. -/
def url (c : Config) : Except ConfigError Url :=
  match Url.parse c.apiUrl with
  | .error e => .error (.invalidApiUrl c.apiUrl e.message)
  | .ok url =>
    if url.isWeb then .ok url
    else .error (.invalidApiUrl c.apiUrl s!"unsupported scheme '{url.scheme}'")

def selector (c : Config) : Except ConfigError Selector :=
  (Selector.parse c.labelSelector).mapError .invalidSelector

def address (c : Config) : Except ConfigError SocketAddress :=
  match SocketAddress.parse? c.metricsAddr with
  | some a => .ok a
  | none => .error (.invalidMetricsAddr c.metricsAddr)

def retryPolicy (c : Config) : RetryPolicy := ⟨c.remoteRetries, .ofMillis c.remoteRetryIntervalMs⟩

def errorRequeue (c : Config) : Duration := .ofSeconds c.errorRequeueSecs

def webhookSync (c : Config) : Duration := .ofSeconds c.webhookSyncSecs

/-- Checks what can be checked before anything starts; a key of blanks is none. -/
def validate (c : Config) : Except ConfigError Unit := do
  let _ ← c.url
  let _ ← c.selector
  let _ ← c.address
  if (Text.trim c.apiKey.toList).isEmpty then throw .missingApiKey

end Config

/-- What all controllers share. -/
structure Context where
  remote : ManagementClient
  selector : Selector
  /-- The one namespace that is watched; all of them, where there is none. -/
  watchedNamespace : Option String
  errorRequeue : Duration
  webhookSync : Duration
  concurrency : Nat

/-- Why the controllers cannot start. -/
inductive ContextError where
  | config (e : ConfigError)
  | remote (e : RemoteError)
deriving DecidableEq, Repr

def ContextError.message : ContextError → String
  | .config e => e.message
  | .remote e => e.message

def Context.ofConfig (c : Config) : Except ContextError Context := do
  let url ← c.url.mapError .config
  let remote ← (ManagementClient.ofUrl url c.apiKey c.retryPolicy).mapError .remote
  let selector ← c.selector.mapError .config
  return {
    remote := remote
    selector := selector
    watchedNamespace := c.watchedNamespace.filter fun s => !s.isEmpty
    errorRequeue := c.errorRequeue
    webhookSync := c.webhookSync
    concurrency := c.concurrency }

end ResourceSync
