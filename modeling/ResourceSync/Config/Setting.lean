/-! The settings of the program: by which flag and which variable each is given, and in which
form. -/
namespace ResourceSync

inductive Setting where
  | apiUrl
  | apiKey
  | labelSelector
  | watchedNamespace
  | errorRequeueSecs
  | webhookSyncSecs
  | concurrency
  | metricsAddr
  | leaderElection
  | leaseName
  | leaseNamespace
  | remoteRetries
  | remoteRetryIntervalMs
  | requestTimeoutSecs
  | prometheusRules
deriving DecidableEq, Repr

/-- The form of a setting's value. -/
inductive SettingForm where
  | text
  /-- A whole number below a limit; the sign may be a minus where `signed` says so. -/
  | number (limit : Nat) (signed : Bool)
  | switch
deriving DecidableEq, Repr

namespace Setting

def all : List Setting :=
  [apiUrl, apiKey, labelSelector, watchedNamespace, errorRequeueSecs, webhookSyncSecs, concurrency,
    metricsAddr, leaderElection, leaseName, leaseNamespace, remoteRetries, remoteRetryIntervalMs,
    requestTimeoutSecs, prometheusRules]

/-- The words of a setting's name. -/
def words : Setting → List String
  | apiUrl => ["api", "url"]
  | apiKey => ["api", "key"]
  | labelSelector => ["label", "selector"]
  | watchedNamespace => ["namespace"]
  | errorRequeueSecs => ["error", "requeue", "secs"]
  | webhookSyncSecs => ["webhook", "sync", "secs"]
  | concurrency => ["concurrency"]
  | metricsAddr => ["metrics", "addr"]
  | leaderElection => ["leader", "election"]
  | leaseName => ["lease", "name"]
  | leaseNamespace => ["lease", "namespace"]
  | remoteRetries => ["remote", "retries"]
  | remoteRetryIntervalMs => ["remote", "retry", "interval", "ms"]
  | requestTimeoutSecs => ["request", "timeout", "secs"]
  | prometheusRules => ["prometheus", "rules"]

/-- The flag, without the dashes in front. -/
def flag (s : Setting) : String := "-".intercalate s.words

def variableName (s : Setting) : String := "OBSYNC_" ++ ("_".intercalate s.words).toUpper

def ofFlag? (name : String) : Option Setting := all.find? fun s => s.flag = name

def form : Setting → SettingForm
  | errorRequeueSecs | webhookSyncSecs | remoteRetryIntervalMs | requestTimeoutSecs =>
    .number 18446744073709551616 false
  | remoteRetries => .number 4294967296 true
  | concurrency => .number 65536 true
  | leaderElection | prometheusRules => .switch
  | _ => .text

def isSwitch (s : Setting) : Bool := s.form = .switch

/-- The settings without which the program does not run. -/
def required : List Setting := [apiUrl, apiKey]

end Setting

/-- Why the program's arguments are not taken as settings. -/
inductive UsageError where
  | missingRequired
  | unknownArgument
  | invalidValue
  | valueValidation
  | tooManyValues
  | givenTwice
  | helpAsked
  | versionAsked
deriving DecidableEq, Repr

def UsageError.message : UsageError → String
  | .missingRequired => "the following required arguments were not provided"
  | .unknownArgument => "unexpected argument found"
  | .invalidValue => "invalid value for an argument"
  | .valueValidation => "invalid number for an argument"
  | .tooManyValues => "unexpected value for a flag"
  | .givenTwice => "an argument cannot be used multiple times"
  | .helpAsked => "help was asked for"
  | .versionAsked => "the version was asked for"

namespace SettingForm

/-- The digits of a number as its value. -/
def digits? (s : List Char) : Option Nat :=
  if s.isEmpty || s.any fun c => !('0' ≤ c && c ≤ '9') then none
  else some (s.foldl (fun n c => n * 10 + (c.toNat - '0'.toNat)) 0)

/-- The number that a text denotes. A minus sign leaves no number but zero. -/
def number? (limit : Nat) (signed : Bool) (s : String) : Option Nat :=
  let value := match s.toList with
    | '+' :: r => digits? r
    | '-' :: r => if signed then (digits? r).filter (· = 0) else none
    | s => digits? s
  value.filter (· < limit)

/-- What is wrong with a value of this form. -/
def fault? (form : SettingForm) (value : String) : Option UsageError :=
  match form with
  | text => none
  | number limit signed =>
    if (number? limit signed value).isSome then none else some .valueValidation
  | switch => if value = "true" ∨ value = "false" then none else some .invalidValue

end SettingForm

end ResourceSync
