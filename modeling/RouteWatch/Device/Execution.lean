/-
Running one line in a shell under a time limit. What became of the shell is
data (`Spawned`); what it means to the caller is a function of it, so every
statement about errors is one about all outcomes.
-/
import RouteWatch.Device.Error
import RouteWatch.Shell.Run
import RouteWatch.Text.Blank

namespace RouteWatch

/-- What became of a shell. -/
inductive Spawned where
  | notStarted (reason : Text)
  /-- It was stopped at the limit. -/
  | stopped (limit : Duration)
  | ended (ending : Shell.Ending) (output errors : Bytes)

/-- What a shell that ended has left. -/
structure Captured where
  /-- The code of the exit, minus one after a signal. -/
  exitCode : Int
  output : Text
  errors : Text
  deriving DecidableEq

namespace Captured

/-- The text of what was written. The indentation of the output counts, so only its end is
trimmed. -/
def ofEnding (ending : Shell.Ending) (output errors : Bytes) : Captured where
  exitCode := match ending with
    | .exited code => code
    | .killed _ => -1
  output := Text.trimEnd (Utf8.decodeLossy output)
  errors := Text.trim (Utf8.decodeLossy errors)

def isSuccess (captured : Captured) : Bool := captured.exitCode == 0

/-- Output and errors on lines of their own. -/
def combined (captured : Captured) : Text :=
  if captured.errors.isEmpty then captured.output
  else if captured.output.isEmpty then captured.errors
  else captured.output ++ '\n' :: captured.errors

end Captured

namespace Spawned

/-- The device that is always at hand. -/
def localDevice : Text := "localhost".toList

/-- What was captured of a line. A code other than zero is no failure here. -/
def capture (line : Text) : Spawned → Except CallError Captured
  | notStarted reason => .error (.spawn line reason)
  | stopped limit => .error (.timedOut localDevice line limit)
  | ended ending output errors => .ok (Captured.ofEnding ending output errors)

/-- The output of a line that had to succeed on a device. -/
def require (device line : Text) (spawned : Spawned) : Except CallError Text :=
  match spawned.capture line with
  | .error (.timedOut _ line limit) => .error (.timedOut device line limit)
  | .error e => .error e
  | .ok captured =>
    if captured.isSuccess then .ok captured.output
    else .error (.failed device line captured.exitCode captured.combined)

/-- Runs a line among some files. A line with a null character cannot be given to a shell. -/
def run (files : Files) (limit : Option Duration) (line : Text) : Spawned × Files :=
  if line.contains '\x00' then (notStarted "nul byte found in provided data".toList, files)
  else
    let outcome := Shell.execute files line
    match limit.filter fun limit => limit.nanoseconds ≤ outcome.elapsed with
    | some limit => (stopped limit, outcome.files)
    | none => (ended outcome.ending outcome.output outcome.errors, outcome.files)

end Spawned
end RouteWatch
