/-
Failures of running a command on a device. They are final: nothing here is
tried again.
-/
import RouteWatch.Time.Duration

namespace RouteWatch

inductive CallError where
  /-- The shell did not start. -/
  | spawn (command reason : Text)
  /-- The command ended with a code other than zero. -/
  | failed (device command : Text) (exitCode : Int) (output : Text)
  /-- The command took longer than its limit. -/
  | timedOut (device command : Text) (limit : Duration)
  /-- The device has no such channel. -/
  | channelUnavailable (device channel : Text)
  deriving DecidableEq

namespace CallError

def message : CallError → Text
  | spawn command reason =>
    "Failed to execute command '".toList ++ command ++ "': ".toList ++ reason
  | failed device command exitCode output =>
    "Command failed on ".toList ++ device ++ ": '".toList ++ command ++ "' (exit code ".toList ++
      Text.ofInt exitCode ++ "): ".toList ++ output
  | timedOut device command limit =>
    "Command timed out on ".toList ++ device ++ " after ".toList ++ limit.print ++
      ": '".toList ++ command ++ ['\'']
  | channelUnavailable device channel =>
    "Channel ".toList ++ channel ++ " is not available on ".toList ++ device

/-- The command that the failure is about. -/
def command? : CallError → Option Text
  | spawn command _ => some command
  | failed _ command _ _ => some command
  | timedOut _ command _ => some command
  | channelUnavailable .. => none

end CallError
end RouteWatch
