import CrossRate.CommandLine.Run
import Std.Time.DateTime.Timestamp

/-!
# The program

The outer layer of the command line: it collects the environment, the files that the command
may read and the day, and writes what the command leaves behind.
-/

namespace CrossRate.CommandLine

/-- The variables of the environment that settings may be changed by. -/
def variableNames : List String :=
  ["CACHE_DIR", "REQUEST_TIMEOUT_SECS", "OFFLINE", "PROVIDERS", "LOAD_TIMEOUT_SECS"].map
    ("PIVOTFX_" ++ ·)

/-- The environment of the process. -/
def environment : IO Environment := do
  let values ← variableNames.mapM fun name => return (name, ← IO.getEnv name)
  return ⟨values.filterMap fun (name, value) => value.map (name, ·)⟩

/-- The tree with a file of the machine, if it can be read. -/
def withFile (files : FileTree) (path : String) : IO FileTree := do
  try
    let content ← IO.FS.readBinFile path
    return (files.writeDeep path content.toList).toOption.getD files
  catch _ => return files

/-- The files that a command may read: its settings, and the payloads that are kept for the
catalog. -/
def filesFor (args : List String) (env : Environment) : IO FileTree := do
  let config := (Request.parse args).toOption.bind (·.config)
  let files ← config.toList.foldlM withFile .start
  let settings := (config.bind fun path => (settingsIn files path).toOption).getD {}
  match (settings.withEnvironment env).loader.storeDirectory with
  | none => return files
  | some directory =>
    let paths := Catalog.entries.map fun e =>
      Storage.pathIn directory (Storage.fileNameOf e.resource.id)
    paths.foldlM withFile files

/-- The day from which the clock of the machine counts, 1 January 1970. -/
def epoch : Date := ⟨719468, by decide, by decide⟩

/-- The day on the clock of the machine. -/
def today : IO Date := do
  let now ← Std.Time.Timestamp.now
  let days := now.toSecondsSinceUnixEpoch.val / 86400
  return (Date.ofDayNumber? (epoch.dayNumber + days)).getD epoch

/-- Run the command with its arguments. -/
def program (args : List String) : IO UInt32 := do
  let env ← environment
  let result := run args env (← filesFor args env) (← today)
  (← IO.getStdout).putStr result.output
  (← IO.getStderr).putStr result.errors
  return result.exitCode.toUInt32

end CrossRate.CommandLine

def main (args : List String) : IO UInt32 := CrossRate.CommandLine.program args
