/-
Reaching a device through a shell. A command is first wrapped in the tool of
its channel; the line for another device is then quoted as one argument of
a secure shell, so that the remote shell reads it as it stands.
-/
import RouteWatch.Device.Execution
import RouteWatch.Device.Source
import RouteWatch.Shell.Quote

namespace RouteWatch

structure Transport where
  /-- The management shell. -/
  managementCli : Text := "/usr/bin/vtysh".toList
  /-- The client of the database. -/
  dbClient : Text := "/usr/bin/redis-cli".toList
  /-- Other devices are reached over a secure shell; otherwise all are at hand. -/
  isRemote : Bool := false
  user : Option Text := none
  /-- How long one command may take. -/
  limit : Option Duration := none
  deriving DecidableEq

namespace Transport

/-- The client of the secure shell. -/
def remoteShell : Text := "/usr/bin/ssh".toList

/-- The line that runs a command on the device itself. -/
def deviceLine (transport : Transport) (call : Call) : Text :=
  match call.channel with
  | .managementCli => transport.managementCli ++ " -c ".toList ++ Shell.quote call.command
  | .shell => call.command
  | .dbClient => transport.dbClient ++ ' ' :: call.command

/-- The name under which the secure shell reaches a device. -/
def destination (transport : Transport) (device : Text) : Text :=
  match transport.user with
  | some user => user ++ '@' :: device
  | none => device

/-- The line that runs a command from here. -/
def commandLine (transport : Transport) (call : Call) : Text :=
  if !transport.isRemote || call.device == Spawned.localDevice then transport.deviceLine call
  else
    remoteShell ++ " -o BatchMode=yes ".toList ++
      Shell.quote (transport.destination call.device) ++ ' ' ::
        Shell.quote (transport.deviceLine call)

/-- The answer to a call, from what became of the shell. A command that ended badly is reported as
it was asked for, and every other failure as the line that was run. -/
def answer (transport : Transport) (call : Call) (spawned : Spawned) : Except CallError Text :=
  match spawned.require call.device (transport.commandLine call) with
  | .error (.failed device _ exitCode output) =>
    .error (.failed device call.command exitCode output)
  | result => result

/-- The source that runs its lines among some files. -/
def source (transport : Transport) : Source Files := fun call files =>
  let (spawned, files) := Spawned.run files transport.limit (transport.commandLine call)
  (transport.answer call spawned, files)

end Transport
end RouteWatch
