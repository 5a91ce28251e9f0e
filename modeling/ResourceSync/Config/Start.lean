import ResourceSync.Config.Basic

/-! The start of the program up to the point where it needs the cluster. -/
namespace ResourceSync

/-- How the program ends, and what it leaves behind on its two outputs. -/
structure Ending where
  code : Nat
  output : String
  errors : String
deriving DecidableEq, Repr

/-- Where the arguments and the environment lead. -/
inductive Start where
  | ended (e : Ending)
  /-- The settings are in order, and the program goes on with them. -/
  | running (c : Config)

namespace Start

def programName : String := "obsync"

def summary : String :=
  "Synchronizes alerting and observability resources with a remote management API"

def usage : String :=
  s!"Usage: {programName} [OPTIONS] --api-url <API_URL> --api-key <API_KEY>"

/-- One setting in the list of options. -/
def option (s : Setting) : String :=
  let value := if s.isSwitch then "" else " <" ++ ("_".intercalate s.words).toUpper ++ ">"
  "      --" ++ s.flag ++ value ++ " [env: " ++ s.variableName ++ "=]"

def help : String :=
  "\n".intercalate ([summary, "", usage, "", "Options:"] ++ Setting.all.map option ++
    ["  -h, --help", "  -V, --version", ""])

/-- The ending that a usage error leads to. Questions about the program are no errors. -/
def ofUsageError : UsageError → Ending
  | .helpAsked => ⟨0, help, ""⟩
  | .versionAsked => ⟨0, s!"{programName} {ManagementClient.version}\n", ""⟩
  | e => ⟨2, "", s!"error: {e.message}\n\n{usage}\n\nFor more information, try '--help'.\n"⟩

/-- Starts with these arguments, of which the program's own name is none. -/
def ofArguments (args : List String) (env : SortedMap String String) : Start :=
  match Config.ofArguments args env with
  | .error e => .ended (ofUsageError e)
  | .ok c =>
    match c.validate with
    | .error e => .ended ⟨1, "", s!"Error: {e.message}\n"⟩
    | .ok () => .running c

end Start

end ResourceSync
