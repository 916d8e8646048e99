import Lookout.Program
/-!
The command line. This layer reads the arguments, the environment and the files of settings, writes
what the program says, and lets time pass for a session. Log lines bear the time since the start.
It has no network of its own, so that every request of a session fails as unreachable.
-/
namespace Lookout.Main

open Lookout.Program

/-- The environment, as the system keeps it for this process: pairs of a name and a value. -/
def environment : IO (List (String × String)) := do
  try
    let bytes ← IO.FS.readBinFile "/proc/self/environ"
    return ((Text.decodeLossy bytes).splitOn "\x00").filterMap fun entry =>
      match entry.splitOn "=" with
      | name :: rest@(_ :: _) => some (name, "=".intercalate rest)
      | _ => none
  catch _ => return []

/-- A file, if it can be read. -/
def readFile? (path : String) : IO (Option ByteArray) := do
  try
    return some (← IO.FS.readBinFile path)
  catch _ => return none

/-- The files of settings in a directory. -/
def settingsFiles (directory : String) : IO (List (String × ByteArray)) := do
  let paths := [Config.fileName, Config.localFileName].map (Config.pathIn directory)
  let files ← paths.mapM fun path => do
    return (← readFile? path).map fun bytes => (Config.plainPath path, bytes)
  return files.filterMap id

/-- The directory of settings that arguments ask for. -/
def directoryOf (arguments : List String) : String :=
  match Command.Arguments.read arguments with
  | .ok a => a.configs
  | .error _ => "."

/-- Writes a log line in the form that settings ask for. -/
def writeLine (log : Config.Log) (start : Nat) (l : Log.Line) : IO Unit := do
  let time := toString ((← IO.monoMsNow) - start) ++ "ms"
  IO.eprintln (match log.format with
    | .text => l.text time
    | .json => l.jsonText time)

/-- Writes a line of diagnostics. -/
def writeDiagnostic (log : Config.Log) (start : Nat) : Diagnostic → IO Unit
  | .plain text => IO.eprintln text
  | .log l => writeLine log start l

/-- Lets a session go on for ever, in step with the clock. -/
partial def keepRunning (session : Session) (start : Nat) (s : Pipeline.Schedule) : IO Unit := do
  for l in session.lines s.records do
    writeLine session.log start l
  IO.sleep 50
  let elapsed := (← IO.monoMsNow) - start
  let s := { s with records := [] }
  keepRunning session start (s.perform session.world (.advance (elapsed - s.now)))

end Lookout.Main

/-- Runs the program. -/
def main (arguments : List String) : IO UInt32 := do
  let start ← IO.monoMsNow
  let files ← Lookout.Main.settingsFiles (Lookout.Main.directoryOf arguments)
  let input : Lookout.Program.Input := {
    arguments
    files := fun path => List.lookup path files
    bindings := ← Lookout.Main.environment }
  match Lookout.Program.start input with
  | .ended status output diagnostics log =>
    IO.print output
    for d in diagnostics do
      Lookout.Main.writeDiagnostic log start d
    return UInt32.ofNat status
  | .running session =>
    if Lookout.Program.startLine.passes session.filter then
      Lookout.Main.writeLine session.log start Lookout.Program.startLine
    Lookout.Main.keepRunning session start (session.schedule.perform session.world .run)
    return 0
