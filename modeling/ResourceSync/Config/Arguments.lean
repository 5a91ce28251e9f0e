import ResourceSync.Config.Setting
import ResourceSync.SortedMap
import ResourceSync.Text.Cut

/-! The command line and the environment as values of settings. A flag beats its variable. -/
namespace ResourceSync

/-- The values that have been given. -/
abbrev SettingValues := List (Setting × String)

namespace SettingValues

def get? (vs : SettingValues) (s : Setting) : Option String :=
  (vs.find? fun v => v.1 = s).map (·.2)

def add (vs : SettingValues) (s : Setting) (value : String) : Except UsageError SettingValues :=
  match s.form.fault? value with
  | some e => .error e
  | none => .ok (vs ++ [(s, value)])

end SettingValues

/-- The state while arguments are read. A flag waits for its value, and a value is only looked at
once the next flag comes or the arguments end. -/
structure ArgumentReader where
  values : SettingValues
  pending : Option (Setting × Option String)
  /-- Whether flags have ended. -/
  flagsEnded : Bool

namespace ArgumentReader

def start : ArgumentReader := ⟨[], none, false⟩

/-- Takes a value from the command line. -/
def take (a : ArgumentReader) (s : Setting) (value : String) : Except UsageError ArgumentReader :=
  if (a.values.get? s).isSome then .error .givenTwice
  else (a.values.add s value).map fun vs => { a with values := vs }

/-- Looks at the value that is pending. -/
def settle (a : ArgumentReader) : Except UsageError ArgumentReader :=
  match a.pending with
  | none => .ok a
  | some (_, none) => .error .invalidValue
  | some (s, some value) => { a with pending := none }.take s value

/-- Help or version is asked for, once the value that is pending has been looked at. -/
def ask (a : ArgumentReader) (e : UsageError) : Except UsageError ArgumentReader := do
  let _ ← a.settle
  throw e

/-- A flag, with the value that stands behind an equals sign. -/
def readFlag (a : ArgumentReader) (name : String) (value : Option String) :
    Except UsageError ArgumentReader :=
  let question := if name = "help" then some UsageError.helpAsked
    else if name = "version" then some .versionAsked else none
  match question, Setting.ofFlag? name with
  | some e, _ => if value.isSome then .error .tooManyValues else a.ask e
  | none, none => .error .unknownArgument
  | none, some s =>
    if s.isSwitch then
      if value.isSome then .error .tooManyValues
      else do (← a.settle).take s "true"
    else do
      let a ← a.settle
      match value with
      | some value => a.take s value
      | none => return { a with pending := some (s, none) }

/-- What is no flag is the value that a flag waits for. -/
def readValue (a : ArgumentReader) (value : String) : Except UsageError ArgumentReader :=
  match a.pending with
  | some (s, none) => .ok { a with pending := some (s, some value) }
  | _ => .error .unknownArgument

def read (a : ArgumentReader) (argument : String) : Except UsageError ArgumentReader :=
  if a.flagsEnded then .error .unknownArgument
  else
    match argument.toList with
    | ['-', '-'] => .ok { a with flagsEnded := true }
    | '-' :: '-' :: r =>
      match Text.cut? ['='] r with
      | some (name, value) => a.readFlag (String.ofList name) (some (String.ofList value))
      | none => a.readFlag (String.ofList r) none
    | '-' :: 'h' :: _ => a.ask .helpAsked
    | '-' :: 'V' :: _ => a.ask .versionAsked
    | '-' :: _ :: _ => .error .unknownArgument
    | _ => a.readValue argument

end ArgumentReader

namespace SettingValues

/-- The values of the variables whose settings are not given otherwise. -/
def addVariables (vs : SettingValues) (env : SortedMap String String) :
    List Setting → Except UsageError SettingValues
  | [] => .ok vs
  | s :: rest =>
    match vs.get? s, env.get? s.variableName with
    | none, some value => do (← vs.add s value).addVariables env rest
    | _, _ => vs.addVariables env rest

/-- The values that the arguments and the environment give. -/
def ofArguments (args : List String) (env : SortedMap String String) :
    Except UsageError SettingValues := do
  let a ← args.foldlM ArgumentReader.read .start
  let vs ← (← a.settle).values.addVariables env Setting.all
  if Setting.required.any fun s => (vs.get? s).isNone then throw .missingRequired
  return vs

end SettingValues

end ResourceSync
