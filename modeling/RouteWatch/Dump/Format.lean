/-
The five dump formats: by which channel and command a dump is produced, and
how the route that is looked for is read from it. A text that cannot be
parsed is a dump without the route.
-/
import RouteWatch.Device.Channel
import RouteWatch.Device.Command
import RouteWatch.Dump.DatabaseEntry
import RouteWatch.Dump.Display
import RouteWatch.Dump.Kernel
import RouteWatch.Dump.RunningConfig
import RouteWatch.Text.Lines

namespace RouteWatch

inductive Format where
  | rib
  | fib
  | kernel
  | runningConfig
  | applDb
  deriving DecidableEq

namespace Format

def all : List Format := [rib, fib, kernel, runningConfig, applDb]

def name : Format → Text
  | rib => "rib".toList
  | fib => "fib".toList
  | kernel => "kernel".toList
  | runningConfig => "running-config".toList
  | applDb => "appl-db".toList

/-- The format of a name. -/
def ofName? (s : Text) : Option Format := all.find? (·.name == s)

/-- The complaint about a name of no format. -/
def unknownMessage (s : Text) : Text := "unknown output format: ".toList ++ s

/-- The channel on which the dump is produced. -/
def channel : Format → Channel
  | rib => .managementCli
  | fib => .managementCli
  | kernel => .shell
  | runningConfig => .managementCli
  | applDb => .dbClient

/-- The command that produces the dump. -/
def command (format : Format) (query : Query) : Text :=
  let family := query.target.family
  match format with
  | rib => Command.showRib family query.vrf
  | fib => Command.showFib family query.vrf
  | kernel => Command.showKernel family query.vrf
  | runningConfig => Command.showRunningConfig
  | applDb => Command.readDatabase query.target query.vrf

/-- The route that is looked for, from the lines of a dump. -/
def extractLines (format : Format) (lines : List Text) (query : Query) : Option Route :=
  match format with
  | rib => Display.extract .rib lines query
  | fib => Display.extract .fib lines query
  | kernel => Kernel.extract lines query
  | runningConfig => RunningConfig.extract lines query
  | applDb => DatabaseEntry.extract lines query

/-- The route that is looked for, from a captured dump. -/
def extract (format : Format) (text : Text) (query : Query) : Option Route :=
  format.extractLines (Text.lines text) query

end Format
end RouteWatch
