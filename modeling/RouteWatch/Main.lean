/-
The program. It reads the files that its arguments and settings name, runs
on them, prints what was last seen of the route and complains on the error
stream.
-/
import RouteWatch.CommandLine.Outcome

namespace RouteWatch

/-- The bytes of a file, if it can be read. -/
def readBytes (name : Text) : IO (Option Bytes) := do
  try
    let bytes ← IO.FS.readBinFile (String.ofList name)
    return some bytes.toList
  catch _ => return none

/-- The files together with those of some names. -/
def addFiles (files : Files) (names : List Text) : IO Files :=
  names.foldlM (fun files name => do
    match ← readBytes name with
    | some bytes => return files.insert name bytes
    | none => return files) files

/-- The files that the tools of the settings name. -/
def toolFiles (options : Options) (files : Files) : List Text :=
  match options.readSettings files with
  | .ok settings => Text.words settings.device.managementCli ++ Text.words settings.device.dbClient
  | .error _ => []

/-- The files that a request needs. -/
def filesOf : Options.Request → IO Files
  | .watch options => do
    let files ← addFiles ∅ [options.settings, options.expected]
    addFiles files (toolFiles options files)
  | _ => return ∅

end RouteWatch

open RouteWatch in
def main (arguments : List String) : IO UInt32 := do
  let request := Options.read (arguments.map String.toList)
  let outcome := request.run (← filesOf request)
  IO.print (String.ofList outcome.output)
  match outcome.failure? with
  | some failure => IO.eprintln (String.ofList ("route-verify failed: ".toList ++ failure))
  | none => pure ()
  return outcome.exitCode
