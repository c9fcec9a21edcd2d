/-
The programs that scripts may call. A program gets its arguments and the
streams, and answers with the state after it.
-/
import RouteWatch.Shell.Machine
import RouteWatch.Shell.Printf
import RouteWatch.Time.Duration

namespace RouteWatch.Shell.Utility

abbrev Program := Streams → List Text → Machine → Machine

/-- Leaves the shell with a code, of which eight bits count. -/
def exit : Program := fun streams arguments m =>
  match arguments with
  | [] => { m with ending := some (.exited m.status) }
  | code :: _ =>
    match Text.toNat? 10 code with
    | some n => { m with ending := some (.exited (n % 256)) }
    | none =>
      { m.complain streams ("exit: Illegal number: ".toList ++ code) with
        ending := some (.exited 2) }

def printf : Program := fun streams arguments m =>
  let arguments := if arguments.head? = some "--".toList then arguments.drop 1 else arguments
  match arguments with
  | [] => (m.complain streams "printf: usage: printf format [arg ...]".toList).withStatus 2
  | format :: arguments =>
    let printed := Printf.print format arguments
    let m := printed.complaints.foldl
      (fun m complaint => m.complain streams ("printf: ".toList ++ complaint)) m
    (m.write streams.output printed.output).withStatus printed.status

def echo : Program := fun streams arguments m =>
  let (isOpen, arguments) := match arguments with
    | first :: rest => if first = "-n".toList then (true, rest) else (false, first :: rest)
    | [] => (false, [])
  let (bytes, isEnd) := Printf.expandEscapes (Text.joinWith [' '] arguments)
  (m.write streams.output (bytes ++ if isOpen || isEnd then [] else [0x0A])).withStatus 0

/-- The factor of a unit of time, in seconds. -/
def unitSeconds? : Text → Option Nat
  | [] => some 1
  | ['s'] => some 1
  | ['m'] => some 60
  | ['h'] => some 3600
  | ['d'] => some 86400
  | _ => none

/-- The nanoseconds that a decimal number with a unit denotes. -/
def interval? (s : Text) : Option Nat :=
  let (whole, rest) := Text.span Char.isDigit s
  let (places, rest) := match rest with
    | '.' :: rest => Text.span Char.isDigit rest
    | rest => ([], rest)
  if whole.isEmpty && places.isEmpty then none
  else do
    let unit ← unitSeconds? rest
    let digits ← Text.digitsValue? 10 0 (whole ++ places)
    return digits * unit * Duration.perSecond / Nat.pow 10 places.length

/-- Where to read about a program's arguments. -/
def seeHelp (name : Text) : Text :=
  "Try '".toList ++ name ++ " --help' for more information.".toList

/-- Lets time pass. -/
def sleep : Program := fun streams arguments m =>
  let name := "sleep".toList
  match arguments with
  | [] => ((m.say streams "sleep: missing operand".toList).say streams (seeHelp name)).withStatus 1
  | arguments =>
    match arguments.find? fun argument => (interval? argument).isNone with
    | some argument =>
      ((m.say streams ("sleep: invalid time interval '".toList ++ argument ++ ['\''])).say
        streams (seeHelp name)).withStatus 1
    | none =>
      { m with clock := (arguments.filterMap interval?).foldl (· + ·) m.clock, status := 0 }

/-- The signals that end a process, by name. -/
def signals : List (Text × Nat) :=
  [("HUP".toList, 1), ("INT".toList, 2), ("QUIT".toList, 3), ("ILL".toList, 4),
    ("TRAP".toList, 5), ("ABRT".toList, 6), ("BUS".toList, 7), ("FPE".toList, 8),
    ("KILL".toList, 9), ("USR1".toList, 10), ("SEGV".toList, 11), ("USR2".toList, 12),
    ("PIPE".toList, 13), ("ALRM".toList, 14), ("TERM".toList, 15)]

/-- The number of a signal that is named or numbered; zero is the signal that does nothing. -/
def signal? (s : Text) : Option Nat :=
  match Text.toNat? 10 s with
  | some n => if n < 65 then some n else none
  | none => valueOf? (s.map Char.toUpper) signals

/-- Sends a signal to a process. -/
def send (signal : Nat) (process : Text) (streams : Streams) (m : Machine) : Machine :=
  if process = Machine.shellNumber then
    if signal = 0 then m.withStatus 0 else { m with ending := some (.killed signal) }
  else (m.complain streams "kill: No such process".toList).withStatus 1

/-- How signals are sent. -/
def killUsage : Text :=
  ("kill: Usage: kill [-s sigspec | -signum | -sigspec] [pid | job]... or\n" ++
    "kill -l [exitstatus]").toList

def kill : Program := fun streams arguments m =>
  let wrong (complaint : Text) : Machine := (m.complain streams complaint).withStatus 2
  let sendAll (signal : Nat) (processes : List Text) : Machine :=
    if processes.isEmpty then wrong killUsage
    else processes.foldl (fun m process => send signal process streams m) m
  match arguments with
  | ['-', 's'] :: name :: processes =>
    match signal? name with
    | some signal => sendAll signal processes
    | none => wrong ("kill: invalid signal number or name: ".toList ++ name)
  | ['-', '-'] :: processes => sendAll 15 processes
  | ('-' :: name) :: processes =>
    match signal? name with
    | some signal => sendAll signal processes
    | none => wrong ("kill: Illegal option -".toList ++ name.take 1)
  | processes => sendAll 15 processes

/-- Copies files, or the input, to the output. -/
def cat : Program := fun streams arguments m =>
  let copy (m : Machine) (name : Text) : Machine :=
    let complaint (what : String) : Machine :=
      (m.say streams ("cat: ".toList ++ name ++ what.toList)).withStatus 1
    if name = ['-'] then m.write streams.output streams.input
    else match m.files.find name with
      | .bytes bytes => m.write streams.output bytes
      | .directory => complaint ": Is a directory"
      | .missing => complaint ": No such file or directory"
  let names := if arguments.isEmpty then [['-']] else arguments
  names.foldl copy (m.withStatus 0)

/-- The programs by name. -/
def programs : List (Text × Program) :=
  [(":".toList, fun _ _ m => m.withStatus 0), ("true".toList, fun _ _ m => m.withStatus 0),
    ("false".toList, fun _ _ m => m.withStatus 1), ("exit".toList, exit),
    ("printf".toList, printf), ("echo".toList, echo), ("sleep".toList, sleep),
    ("kill".toList, kill), ("cat".toList, cat)]

/-- The name of a program without the directory in which it is installed. -/
def baseName (name : Text) : Text :=
  ((Text.after? "/usr/bin/".toList name).or (Text.after? "/bin/".toList name)).getD name

/-- Runs the program that a name stands for. -/
def call (streams : Streams) (name : Text) (arguments : List Text) (m : Machine) : Machine :=
  match valueOf? (baseName name) programs with
  | some program => program streams arguments m
  | none =>
    if name.contains '/' && Files.isDirectory name then
      (m.complain streams (name ++ ": Permission denied".toList)).withStatus 126
    else (m.complain streams (name ++ ": not found".toList)).withStatus 127

end RouteWatch.Shell.Utility
