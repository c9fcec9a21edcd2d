/-
Settings of polls and of the way to devices. They are valid when there is a
tick, a time limit and a tool for each channel; nothing else about them can
be wrong.
-/
import RouteWatch.Device.Transport
import RouteWatch.Poll.Policy

namespace RouteWatch

structure PollSettings where
  /-- Milliseconds between two ticks. -/
  interval : UInt64 := 2000
  maxAttempts : UInt32 := 15
  deriving DecidableEq

structure DeviceSettings where
  /-- Other devices are reached over a secure shell. -/
  isRemote : Bool := true
  user : Option Text := none
  /-- Seconds that one command may take. -/
  timeout : UInt64 := 30
  managementCli : Text := ({} : Transport).managementCli
  dbClient : Text := ({} : Transport).dbClient
  deriving DecidableEq

structure Settings where
  poll : PollSettings := {}
  device : DeviceSettings := {}
  deriving DecidableEq

/-- Why settings cannot be used. -/
inductive SettingsError where
  /-- The file is no text of settings. -/
  | unreadable (file : Text)
  | noAttempts
  | noTimeout
  | noTool
  deriving DecidableEq

def SettingsError.message (e : SettingsError) : Text :=
  "Configuration error: ".toList ++ match e with
    | unreadable file => "Failed to parse config file ".toList ++ file
    | noAttempts => "max_attempts must be > 0".toList
    | noTimeout => "command_timeout_secs must be > 0".toList
    | noTool => "tool paths must not be empty".toList

namespace Settings

/-- The pause between two ticks. -/
def interval (settings : Settings) : Duration :=
  Duration.ofMilliseconds settings.poll.interval.toNat

/-- How long one command may take. -/
def timeout (settings : Settings) : Duration := Duration.ofSeconds settings.device.timeout.toNat

/-- The policy of polls. -/
def policy (settings : Settings) : Policy := ⟨settings.interval, settings.poll.maxAttempts⟩

/-- The way to devices. A user counts only with a secure shell. -/
def transport (settings : Settings) : Transport where
  managementCli := settings.device.managementCli
  dbClient := settings.device.dbClient
  isRemote := settings.device.isRemote
  user := if settings.device.isRemote then settings.device.user else none
  limit := some settings.timeout

/-- Finds the first thing that is wrong. -/
def validate (settings : Settings) : Except SettingsError Unit :=
  if settings.poll.maxAttempts = 0 then .error .noAttempts
  else if settings.device.timeout = 0 then .error .noTimeout
  else if settings.device.managementCli.isEmpty || settings.device.dbClient.isEmpty then
    .error .noTool
  else .ok ()

end Settings
end RouteWatch
