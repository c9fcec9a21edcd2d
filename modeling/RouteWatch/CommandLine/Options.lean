/-
Options of the command line. They are read from left to right, and the first
one that is wrong, unknown or given twice ends the reading, as does a
request for the version or for help. A value is the rest of its argument or
the next argument; an argument that begins with a dash is no value unless it
is a single dash.
-/
import RouteWatch.Dump.Format
import RouteWatch.Poll.Watch
import RouteWatch.Text.Count

namespace RouteWatch

structure Options where
  device : Text := "localhost".toList
  format : Format := .rib
  /-- The file with the expected route. -/
  expected : Text
  goal : Goal := .present
  protocol : Option Text := none
  vrf : Option Text := none
  /-- The file with the settings. -/
  settings : Text := "/etc/sonic/route-verify.toml".toList
  /-- Milliseconds between two ticks. -/
  interval : Option UInt64 := none
  maxAttempts : Option UInt32 := none
  user : Option Text := none
  deriving DecidableEq

namespace Options

/-- An option that takes a value. -/
inductive Key where
  | device
  | format
  | expected
  | protocol
  | vrf
  | settings
  | interval
  | maxAttempts
  | user
  deriving DecidableEq

namespace Key

def all : List Key :=
  [device, format, expected, protocol, vrf, settings, interval, maxAttempts, user]

/-- The name after two dashes. -/
def name : Key → Text
  | device => "device".toList
  | format => "format".toList
  | expected => "expected".toList
  | protocol => "route-type".toList
  | vrf => "vrf".toList
  | settings => "config".toList
  | interval => "interval-ms".toList
  | maxAttempts => "max-attempts".toList
  | user => "ssh-user".toList

/-- The letter after one dash. -/
def letter? : Key → Option Char
  | device => some 'd'
  | format => some 'f'
  | expected => some 'e'
  | settings => some 'c'
  | _ => none

end Key

/-- The number of ticks that a text names: a signed number within the range. -/
def attempts? (s : Text) : Option UInt32 :=
  let count := match s with
    | '-' :: digits => (Text.toNat? 10 digits).filter (· == 0)
    | s => Text.toCount? Text.halfWordMax s
  count.map UInt32.ofNat

/-- The options that were given, by key. -/
abbrev Given := List (Key × Text)

/-- The value is one that the option can have. -/
def isValue (key : Key) (value : Text) : Bool :=
  match key with
  | .format => (Format.ofName? value).isSome
  | .expected => !value.isEmpty
  | .settings => !value.isEmpty
  | .interval => (Text.toCount? Text.wordMax value).isSome
  | .maxAttempts => (attempts? value).isSome
  | _ => true

/-- The value of an option that was given. -/
def given? (key : Key) (given : Given) : Option Text :=
  (given.find? (·.1 == key)).map (·.2)

/-- The options that were given and the defaults of the others; the expected route has none. -/
def ofGiven? (given : Given) (isAbsent : Bool) : Option Options :=
  (given? .expected given).map fun expected =>
    let default : Options := { expected := expected }
    { device := (given? .device given).getD default.device
      format := ((given? .format given).bind Format.ofName?).getD default.format
      expected := expected
      goal := if isAbsent then .absent else .present
      protocol := given? .protocol given
      vrf := given? .vrf given
      settings := (given? .settings given).getD default.settings
      interval := ((given? .interval given).bind (Text.toCount? Text.wordMax)).map UInt64.ofNat
      maxAttempts := (given? .maxAttempts given).bind attempts?
      user := given? .user given }

/-- What a command line asks for. -/
inductive Request where
  | watch (options : Options)
  | version
  | help
  /-- The arguments make no sense. -/
  | misuse
  deriving DecidableEq

/-- What one argument is. -/
inductive Argument where
  | absent
  | version
  | help
  /-- An option with its value in the same argument. -/
  | attached (key : Key) (value : Text)
  /-- An option whose value is the next argument. -/
  | detached (key : Key)
  /-- The end of the options. -/
  | last
  | unknown

/-- An argument after two dashes. -/
def classifyLong (s : Text) : Argument :=
  let (name, value) := Text.span (· != '=') s
  match Key.all.find? (·.name == name), value with
  | some key, [] => .detached key
  | some key, _ :: value => .attached key value
  | none, [] =>
    if name = "absent".toList then .absent
    else if name = "version".toList then .version
    else if name = "help".toList then .help
    else .unknown
  | none, _ => .unknown

/-- An argument after one dash. -/
def classifyShort (letter : Char) (rest : Text) : Argument :=
  if letter = 'V' then .version
  else if letter = 'h' then .help
  else match Key.all.find? (·.letter? == some letter), rest with
    | some key, [] => .detached key
    | some key, '=' :: value => .attached key value
    | some key, value => .attached key value
    | none, _ => .unknown

def classify (s : Text) : Argument :=
  match s with
  | ['-', '-'] => .last
  | '-' :: '-' :: s => classifyLong s
  | '-' :: letter :: rest => classifyShort letter rest
  | _ => .unknown

/-- The argument can be the value of an option before it. -/
def canBeValue (s : Text) : Bool := s.head? != some '-' || s == ['-']

/-- The options after one more of them, which must have a value that fits and be new. -/
def add? (key : Key) (value : Text) (given : Given) : Option Given :=
  if isValue key value && (given? key given).isNone then some ((key, value) :: given) else none

/-- Reads the arguments that are left. -/
def readFrom (given : Given) (isAbsent : Bool) : List Text → Request
  | [] => (ofGiven? given isAbsent).elim .misuse .watch
  | argument :: arguments =>
    match classify argument with
    | .absent => if isAbsent then .misuse else readFrom given true arguments
    | .version => .version
    | .help => .help
    | .attached key value =>
      match add? key value given with
      | some given => readFrom given isAbsent arguments
      | none => .misuse
    | .detached key =>
      match arguments with
      | value :: arguments =>
        if canBeValue value then
          match add? key value given with
          | some given => readFrom given isAbsent arguments
          | none => .misuse
        else .misuse
      | [] => .misuse
    | .last => if arguments.isEmpty then (ofGiven? given isAbsent).elim .misuse .watch else .misuse
    | .unknown => .misuse

/-- Reads the arguments of a command line. -/
def read (arguments : List Text) : Request := readFrom [] false arguments

end Options
end RouteWatch
