/-
One run of the program on the files of its working directory: the settings
are loaded and overridden, the expected route is read, and the route is
watched on one device through the shell. The outcome tells the exit code,
what is printed and what went wrong.
-/
import RouteWatch.CommandLine.Options
import RouteWatch.Json.Printer
import RouteWatch.Json.Reader
import RouteWatch.Settings.Reader

namespace RouteWatch

/-- What can go wrong before or during a run. -/
inductive Failure where
  | load (reason : Settings.LoadError)
  | settings (reason : SettingsError)
  /-- The file with the expected route cannot be read. -/
  | expectedFile (name : Text) (reason : Files.ReadError)
  /-- The file with the expected route is no JSON. -/
  | expectedText (name : Text)
  | expectation (reason : ExpectationError)
  | command (reason : CallError)
  deriving DecidableEq

/-- The complaint, with its causes behind it. -/
def Failure.message : Failure → Text
  | load (.settings reason) => reason.message
  | load (.file reason) => "IO error: ".toList ++ reason.message ++ ": ".toList ++ reason.message
  | settings reason => reason.message
  | expectedFile name reason =>
    "Failed to read ".toList ++ name ++ ": ".toList ++ reason.message
  | expectedText name => "Failed to parse ".toList ++ name
  | expectation reason => reason.message
  | command (.spawn line reason) =>
    (CallError.spawn line reason).message ++ ": ".toList ++ reason
  | command reason => reason.message

/-- How a run of the program ends. -/
inductive Outcome where
  | finished (report : Report)
  | failed (failure : Failure)
  /-- The longest time to wait is longer than any span. -/
  | overflow
  | version
  | help
  | misuse

namespace Outcome

/-- Zero when the route is as desired, one when it is not, two when that is not known. -/
def exitCode : Outcome → UInt32
  | finished report => if report.hasConverged then 0 else 1
  | failed _ => 2
  | overflow => 101
  | version => 0
  | help => 0
  | misuse => 2

/-- What a run prints. -/
def output : Outcome → Text
  | finished report => report.observedMapping.pretty 0 ++ ['\n']
  | version => "route-verify 0.1.0\n".toList
  | help =>
    ("Usage: route-verify [OPTIONS] --expected <EXPECTED>\n\nOptions:\n".toList ++
      Options.Key.all.flatMap fun key => "  --".toList ++ key.name ++ " <VALUE>\n".toList) ++
      "  --absent\n  --version\n  --help\n".toList
  | _ => []

/-- What went wrong. -/
def failure? : Outcome → Option Text
  | failed failure => some failure.message
  | _ => none

end Outcome

namespace Options

/-- The settings with those of the command line in place of those of the file. -/
def override (options : Options) (settings : Settings) : Settings where
  poll := ⟨options.interval.getD settings.poll.interval,
    options.maxAttempts.getD settings.poll.maxAttempts⟩
  device := { settings.device with user := options.user.or settings.device.user }

/-- The expected route of a file. -/
def readExpected (options : Options) (files : Files) : Except Failure Route :=
  match files.read options.expected with
  | .error reason => .error (.expectedFile options.expected reason)
  | .ok text =>
    match Json.read? text with
    | none => .error (.expectedText options.expected)
    | some value => (Route.ofMapping value).mapError .expectation

/-- The settings of a run. -/
def readSettings (options : Options) (files : Files) : Except Failure Settings := do
  let settings ← (Settings.load files options.settings).mapError .load
  let settings := options.override settings
  settings.validate.mapError .settings
  return settings

/-- What is watched. -/
def watch (options : Options) (settings : Settings) (expected : Route) : Watch where
  query := { expected := expected
             protocol := options.protocol.map Protocol.read
             vrf := options.vrf }
  format := options.format
  goal := options.goal
  policy := settings.policy

/-- Runs the program with its options. -/
def run (options : Options) (files : Files) : Outcome :=
  let prepared : Except Failure (Settings × Route) := do
    let settings ← options.readSettings files
    let expected ← options.readExpected files
    return (settings, expected)
  match prepared with
  | .error failure => .failed failure
  | .ok (settings, expected) =>
    let watch := options.watch settings expected
    if watch.policy.budget?.isNone then .overflow
    else match (watch.poll settings.transport.source options.device files).result with
      | .ok report => .finished report
      | .error reason => .failed (.command reason)

end Options

/-- Runs the program with its arguments. -/
def Options.Request.run (files : Files) : Options.Request → Outcome
  | .watch options => options.run files
  | .version => .version
  | .help => .help
  | .misuse => .misuse

end RouteWatch
