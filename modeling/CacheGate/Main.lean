import CacheGate.CommandLine
import CacheGate.Settings.Basic
import CacheGate.StartupError

/-!
# The program

Reads the command line, the environment and the settings files, and prints
the summary of the settings or why they cannot be used. All decisions are
made in `CommandLine.parse` and `Settings.load`; this module only reads and
prints. Listening on a socket is left to a transport that mounts
`Service.serve`.
-/

namespace CacheGate.Main

/-- The variables of the environment. -/
def readEnvironment : IO (List (String × String)) := do
  let raw ← IO.FS.readBinFile "/proc/self/environ"
  let text := Utf8.decodeLossy raw.toList
  return (text.toList.splitOn '\x00').filterMap fun line =>
    (Text.cut? '=' line).map fun (name, value) => (String.ofList name, String.ofList value)

/-- A file, if it can be read. -/
def readFile? (name : String) : IO (Option (String × Settings.FileContent)) := do
  try
    let raw ← IO.FS.readBinFile name
    return some (name, .ofText (Utf8.decodeLossy raw.toList))
  catch _ => return none

/-- The files that settings may come from. -/
def readFiles (explicit : Option String) : IO (List (String × Settings.FileContent)) := do
  let names := [Settings.defaultFile, Settings.localFile] ++ explicit.toList
  let found ← (names ++ names.filterMap Settings.marked?).mapM readFile?
  return found.filterMap id

/-- Prints why the process ends, and gives its exit code. -/
def fail (error : StartupError) : IO UInt32 := do
  IO.eprintln ("application error: " ++ error.message)
  return 1

/-- Carries out an invocation. -/
def carryOut (invocation : CommandLine.Invocation) (environment : List (String × String)) :
    IO UInt32 := do
  let files ← readFiles invocation.configFile
  match Settings.load files environment invocation.configFile invocation.overrides with
  | .error error => fail (.configuration ("failed to load configuration: " ++ error.message))
  | .ok settings =>
    match invocation.command with
    | some .checkConfig => do
      settings.summary.forM fun line => IO.println line
      return 0
    | _ => fail (.bind settings.address "no transport is attached")

end CacheGate.Main

/-- The program. -/
def main (arguments : List String) : IO UInt32 := do
  let environment ← CacheGate.Main.readEnvironment
  match CacheGate.CommandLine.parse arguments environment with
  | .error .displayVersion => do
    IO.println "restcache 0.1.0"
    return 0
  | .error .displayHelp => do
    IO.println "Usage: restcache [--config-file <PATH>] [serve | check-config]"
    return 0
  | .error _ => do
    IO.eprintln "error: the arguments cannot be used"
    return 2
  | .ok invocation => CacheGate.Main.carryOut invocation environment
