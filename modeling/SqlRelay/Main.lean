import SqlRelay.Sampling
import SqlRelay.Startup
/-!
# The program

Reads the variables and files that the service needs, gets everything ready, and says on which
address the service is to be found or what keeps it from starting.

Main results:

- Definition `main` is the program.
-/

namespace SqlRelay.Program

/-- The variables of the given names that are set. -/
def readVariables (names : List String) : IO (Fields String) := do
  let mut found : Fields String := []
  for name in names do
    match ← IO.getEnv name with
    | some value => found := found.put name value
    | none => pure ()
  return found

/-- The files of the given names that can be read. -/
def readFiles (names : List String) : IO (Fields (List UInt8)) := do
  let mut found : Fields (List UInt8) := []
  for name in names do
    try
      found := found.put name (← IO.FS.readBinFile name).toList
    catch _ =>
      pure ()
  return found

/-- All that the service needs to know before it starts. -/
def readSurroundings : IO Surroundings := do
  let settings ← readVariables Settings.variableNames
  let configPath := (settings.get? "SQLGATE_CONFIG").getD Settings.standardPath
  let first ← readFiles [configPath]
  match (first.get? configPath).bind Configuration.ofBytes? with
  | none => return ⟨settings, first⟩
  | some config =>
    let named ← readVariables config.variableNames
    let files ← readFiles config.fileNames
    return ⟨settings.putAll named, first.putAll files⟩

/-- Warns about the rate of samples. -/
def warnOfSampling : IO Unit := do
  match (Sampling.ofText (← IO.getEnv Sampling.variableName)).warning with
  | some warning => IO.eprintln warning.message
  | none => pure ()

end SqlRelay.Program

/-- Gets the service ready and says where it is to be found. -/
def main : IO UInt32 := do
  SqlRelay.Program.warnOfSampling
  match SqlRelay.Startup.prepare (← SqlRelay.Program.readSurroundings) with
  | .error e =>
    IO.eprintln ("Error: " ++ e.message)
    return 1
  | .ok ready =>
    IO.println ("listening on " ++ ready.address.text)
    return 0
