import ResourceSync.Config.Start
import ResourceSync.Schema.Definition

/-! The command line: what is read from the surroundings of the program and what is left there. -/
namespace ResourceSync

/-- The variables of the environment that settings are read from. -/
def readVariables : List Setting → IO (SortedMap String String)
  | [] => return ∅
  | s :: rest => do
    let found ← readVariables rest
    match ← IO.getEnv s.variableName with
    | some value => return found.insert s.variableName value
    | none => return found

/-- Leaves what an ending says on the outputs. -/
def conclude (e : Ending) : IO UInt32 := do
  (← IO.getStdout).putStr e.output
  (← IO.getStderr).putStr e.errors
  return .ofNat e.code

/-- Writes the definitions of all kinds to a directory. -/
def writeDefinitions (directory : String) : IO UInt32 := do
  IO.FS.createDirAll directory
  for f in DefinitionFile.all do
    IO.FS.writeFile (directory ++ "/" ++ f.name) f.content
  conclude ⟨0, DefinitionFile.report directory, ""⟩

def runProgram (args : List String) : IO UInt32 := do
  match Start.ofArguments args (← readVariables Setting.all) with
  | .ended e => conclude e
  | .running _ => conclude ⟨1, "", "Error: there is no cluster to connect to\n"⟩

end ResourceSync

/-- Runs the program; under the name of the generator it writes the definitions instead. -/
def main (args : List String) : IO UInt32 := do
  if (toString (← IO.appPath)).endsWith "crdgen" then
    ResourceSync.writeDefinitions (args.headD "deploy/crds")
  else
    ResourceSync.runProgram args
