/-
  Resource queries — the command.

  It reads the settings file and the environment, and prints what `Request.outcome` says.
-/
import ResourceQuery.CommandLine

namespace ResourceQuery

/-- The content of a file that can be read. -/
def readFile? (name : Text) : IO (Option Text) := do
  try
    return some (← IO.FS.readFile name.toString).toList
  catch _ =>
    return none

/-- The environment variables for settings, without the common beginning of their names. -/
def readVariables : IO (List (Text × Text)) := do
  let found ← Settings.keys.mapM fun key => do
    let value ← IO.getEnv (Settings.variableStart ++ key.toUpper)
    return value.map fun v => (key.toList, v.toList)
  return found.filterMap id

/-- The files that settings of a name may come from, with their content. -/
def readFiles (name : Text) : IO (Text → Option Text) := do
  let names := name :: (Location.file? name).toList
  let contents ← names.mapM readFile?
  return fun n => (names.zip contents).findSome? fun (m, content) =>
    if m = n then content else none

end ResourceQuery

open ResourceQuery

def main (arguments : List String) : IO UInt32 := do
  let request := Request.ofArguments (arguments.map String.toList)
  let name := match request with
    | .run i => i.config.getD Settings.standardName
    | _ => Settings.standardName
  let outcome := request.outcome (← readFiles name) (← readVariables)
  IO.print outcome.out.toString
  IO.eprint outcome.err.toString
  return UInt32.ofNat outcome.exit
