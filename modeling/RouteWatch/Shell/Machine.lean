/-
The state in which a script runs: variables, files, the time that has passed
and everything written so far, in order. A script reads its input, writes
to its output and its error stream, and each of these may be sent elsewhere.

Time passes only in `sleep`. A command in the background keeps the whole
script busy without delaying what follows it.
-/
import RouteWatch.Files
import RouteWatch.Text.Count

namespace RouteWatch.Shell

/-- How a script ended. -/
inductive Ending where
  | exited (code : Nat)
  | killed (signal : Nat)
  deriving DecidableEq

/-- The places to which bytes are written. -/
inductive Sink where
  | output
  | errors
  /-- What a substitution or a pipe collects. -/
  | capture (id : Nat)
  | file (name : Text)
  | nowhere
  deriving DecidableEq

/-- Where a command reads from and writes to. -/
structure Streams where
  input : Bytes
  output : Sink
  errors : Sink

structure Machine where
  bindings : Keyed Text
  files : Files
  status : Nat
  /-- The number of the line that is run. -/
  line : Nat
  written : List (Sink × Bytes)
  /-- Nanoseconds since the start. -/
  clock : Nat
  /-- When the last command in the background ends. -/
  busyUntil : Nat
  ending : Option Ending

namespace Machine

/-- The state before a script that can see these files. -/
def start (files : Files) : Machine := ⟨∅, files, 0, 1, [], 0, 0, none⟩

/-- Everything that was written to one place. -/
def bytesAt (m : Machine) (sink : Sink) : Bytes :=
  (m.written.filter (·.1 == sink)).flatMap (·.2)

/-- Writes to a file or to one of the streams. -/
def write (m : Machine) (sink : Sink) (bytes : Bytes) : Machine :=
  match sink with
  | .nowhere => m
  | .file name => { m with files := m.files.insert name ((m.files.get? name).getD [] ++ bytes) }
  | sink => if bytes.isEmpty then m else { m with written := m.written ++ [(sink, bytes)] }

/-- Takes away what was captured. -/
def forget (m : Machine) (id : Nat) : Machine :=
  { m with written := m.written.filter (·.1 != .capture id) }

/-- Complains in the name of the shell. -/
def complain (m : Machine) (streams : Streams) (complaint : Text) : Machine :=
  m.write streams.errors
    (Utf8.encode ("/bin/sh: ".toList ++ Text.ofNat m.line ++ ": ".toList ++ complaint ++ ['\n']))

/-- Complains in the name of a program. -/
def say (m : Machine) (streams : Streams) (complaint : Text) : Machine :=
  m.write streams.errors (Utf8.encode (complaint ++ ['\n']))

/-- The state with another status. -/
def withStatus (m : Machine) (status : Nat) : Machine := { m with status := status }

/-- The number by which a script names its own shell. -/
def shellNumber : Text := "1".toList

/-- The value of a parameter, empty when it has none. -/
def value (m : Machine) (name : Text) : Text :=
  match name with
  | ['?'] => Text.ofNat m.status
  | ['$'] => shellNumber
  | ['#'] => ['0']
  | ['0'] => "/bin/sh".toList
  | name => (m.bindings.get? name).getD []

/-- When everything that was started has ended. -/
def finish (m : Machine) : Nat := max m.clock m.busyUntil

end Machine

end RouteWatch.Shell
