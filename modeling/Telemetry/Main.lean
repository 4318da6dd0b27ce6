import Std.Time.DateTime.Timestamp
import Telemetry.Replay

/-!
The command line.
-/

set_option autoImplicit false

open Telemetry

def readText? (path : String) : IO (Option String) := do
  try
    return some (← IO.FS.readFile path)
  catch _ => return none

def readFiles (options : Replay.Options) : IO Replay.Files := do
  let mut files : List (String × String) := []
  for path in [options.config, options.metadata, options.input].filterMap id do
    if let some text ← readText? path then
      files := (path, text) :: files
  return fun path => files.lookup path

def runReplay (options : Replay.Options) : IO UInt32 := do
  let files ← readFiles options
  let input ← if options.input.isNone then (← IO.getStdin).readToEnd else pure ""
  let now ← Std.Time.Timestamp.now
  let outcome := Replay.run options files input now.toNanosecondsSinceUnixEpoch.val
  IO.print outcome.output.text
  match outcome.failure with
  | none => return 0
  | some failure =>
    IO.eprintln ("Error: " ++ failure.message)
    return 1

def main (arguments : List String) : IO UInt32 :=
  match Replay.Options.ofArguments arguments with
  | .ok options => runReplay options
  | .error .help => do
    IO.print Replay.helpText
    return 0
  | .error .version => do
    IO.print Replay.versionText
    return 0
  | .error .invalid => do
    IO.eprintln "error: unexpected arguments"
    return 2
