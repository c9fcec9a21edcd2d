/-
Running a script. Words are expanded to fields: what an expansion outside
quotes gives is cut at blanks, all else stands for itself. A subshell and a
substitution keep changes of variables and their own exit to themselves.

There are no loops in a script, so a fuel as large as its text is enough.
-/
import RouteWatch.Shell.Command
import RouteWatch.Shell.Utility

namespace RouteWatch.Shell

/-- A part of an expanded word. -/
inductive Part where
  | char (c : Char)
  /-- A blank at which an expansion is cut. -/
  | gap
  | quotes

/-- The parts of the text that an expansion gives. -/
def partsOf (isQuoted : Bool) (s : Text) : List Part :=
  s.map fun c => if !isQuoted && isSpace c then .gap else .char c

/-- The fields of expanded parts, after the characters of one that is open, in reverse. -/
def fields : (current : Option Text) → List Part → List Text
  | none, [] => []
  | some s, [] => [s.reverse]
  | current, .char c :: parts => fields (some (c :: current.getD [])) parts
  | current, .quotes :: parts => fields (some (current.getD [])) parts
  | none, .gap :: parts => fields none parts
  | some s, .gap :: parts => s.reverse :: fields none parts

/-- The one text of expanded parts where nothing is cut. -/
def joined (parts : List Part) : Text :=
  parts.filterMap fun part =>
    match part with
    | .char c => some c
    | .gap => some ' '
    | .quotes => none

/-- The text without line feeds at its end. -/
def withoutFinalLines (s : Text) : Text := (s.reverse.dropWhile (· == '\n')).reverse

/-- The word holds a substitution. -/
def hasSubstitution (word : Word) : Bool :=
  word.any fun piece =>
    match piece with
    | .substitution .. => true
    | _ => false

/-- The stream with a number, sent to another place. -/
def redirectTo (streams : Streams) (stream : Nat) (sink : Sink) : Streams :=
  if stream = 1 then { streams with output := sink }
  else if stream = 2 then { streams with errors := sink }
  else streams

/-- Applies a redirection whose target is expanded; nothing when the target cannot be used. -/
def openTarget (redirect : Redirect) (target : Text) (streams : Streams) (m : Machine) :
    Option Streams × Machine :=
  match redirect with
  | .input _ =>
    match m.files.find target with
    | .bytes bytes => (some { streams with input := bytes }, m)
    | .directory => (some { streams with input := [] }, m)
    | .missing =>
      (none, m.complain streams ("cannot open ".toList ++ target ++ ": No such file".toList))
  | .output stream isAppend _ =>
    if target = "/dev/null".toList then (some (redirectTo streams stream .nowhere), m)
    else if target = "/dev/stdout".toList then
      (some (redirectTo streams stream streams.output), m)
    else if target = "/dev/stderr".toList then
      (some (redirectTo streams stream streams.errors), m)
    else if Files.isDirectory target then
      (none, m.complain streams ("cannot create ".toList ++ target ++ ": Is a directory".toList))
    else if target.contains '/' then
      (none,
        m.complain streams ("cannot create ".toList ++ target ++ ": Directory nonexistent".toList))
    else
      let old := if isAppend then (m.files.get? target).getD [] else []
      (some (redirectTo streams stream (.file target)),
        { m with files := m.files.insert target old })
  | .duplicate stream _ =>
    match target with
    | ['1'] => (some (redirectTo streams stream streams.output), m)
    | ['2'] => (some (redirectTo streams stream streams.errors), m)
    | ['-'] => (some (redirectTo streams stream .nowhere), m)
    | target => (none, m.complain streams (target ++ ": bad file descriptor".toList))

/-- The word that a redirection names. -/
def Redirect.word : Redirect → Word
  | input file => file
  | output _ _ file => file
  | duplicate _ target => target

/-- The state after a subshell: its variables and its exit are its own. -/
def leaveSubshell (before after : Machine) : Machine :=
  match after.ending with
  | some (.exited code) =>
    { after with bindings := before.bindings, ending := none, status := code }
  | _ => { after with bindings := before.bindings }

/-- Ends the shell with a complaint. -/
def abort (streams : Streams) (complaint : Text) (m : Machine) : Machine :=
  { m.complain streams complaint with ending := some (.exited 2) }

mutual

/-- The parts of a word. -/
def expand : (fuel : Nat) → Streams → Word → Machine → List Part × Machine
  | 0, _, _, m => ([], m)
  | _ + 1, _, [], m => ([], m)
  | fuel + 1, streams, piece :: word, m =>
    let (first, m) := match piece with
      | .char c _ => ([.char c], m)
      | .quotes => ([.quotes], m)
      | .parameter name isQuoted => (partsOf isQuoted (m.value name), m)
      | .arithmetic expression isQuoted =>
        match readDouble (expression ++ ['"']) with
        | .error e => ([], abort streams e.message m)
        | .ok (word, _) =>
          let (parts, m) := expand fuel streams word m
          match arithmetic m.value (joined parts) with
          | .ok n => (partsOf isQuoted (Text.ofInt n), m)
          | .error e => ([], abort streams (e.message (joined parts)) m)
      | .substitution script isQuoted =>
        let streams := { streams with output := .capture fuel }
        let after := leaveSubshell m (runScript fuel streams (Script.read script) m)
        let captured := Utf8.decodeLossy ((after.bytesAt (.capture fuel)).filter (· != 0))
        (partsOf isQuoted (withoutFinalLines captured), after.forget fuel)
    let (rest, m) := expand fuel streams word m
    (first ++ rest, m)

/-- The fields of words. -/
def expandAll : (fuel : Nat) → Streams → List Word → Machine → List Text × Machine
  | 0, _, _, m => ([], m)
  | _ + 1, _, [], m => ([], m)
  | fuel + 1, streams, word :: words, m =>
    let (parts, m) := expand fuel streams word m
    let (rest, m) := expandAll fuel streams words m
    (fields none parts ++ rest, m)

/-- The streams after redirections. -/
def redirectAll : (fuel : Nat) → List Redirect → Streams → Machine → Option Streams × Machine
  | 0, _, streams, m => (some streams, m)
  | _ + 1, [], streams, m => (some streams, m)
  | fuel + 1, redirect :: redirects, streams, m =>
    let (parts, m) := expand fuel streams redirect.word m
    match openTarget redirect (joined parts) streams m with
    | (none, m) => (none, m)
    | (some streams, m) => redirectAll fuel redirects streams m

/-- The state after assignments. -/
def assignAll : (fuel : Nat) → Streams → List (Text × Word) → Machine → Machine
  | 0, _, _, m => m
  | _ + 1, _, [], m => m
  | fuel + 1, streams, (name, word) :: rest, m =>
    let (parts, m) := expand fuel streams word m
    assignAll fuel streams rest { m with bindings := m.bindings.insert name (joined parts) }

/-- Runs a command, unless the shell has ended. -/
def run : (fuel : Nat) → Streams → Command → Machine → Machine
  | 0, _, _, m => m
  | fuel + 1, streams, command, m =>
    if m.ending.isSome then m
    else match command with
      | .nothing => m
      | .sequence left right => run fuel streams right (run fuel streams left m)
      | .both left right =>
        let m := run fuel streams left m
        if m.status = 0 then run fuel streams right m else m
      | .either left right =>
        let m := run fuel streams left m
        if m.status = 0 then m else run fuel streams right m
      | .negation inner =>
        let m := run fuel streams inner m
        m.withStatus (if m.status = 0 then 1 else 0)
      | .background inner =>
        let after := leaveSubshell m (run fuel { streams with input := [] } inner m)
        { after with clock := m.clock, busyUntil := max after.busyUntil after.clock, status := 0 }
      | .pipe left right =>
        let first := leaveSubshell m (run fuel { streams with output := .capture fuel } left m)
        let piped := first.bytesAt (.capture fuel)
        let second := run fuel { streams with input := piped } right
          { first.forget fuel with clock := m.clock, status := m.status }
        let second := leaveSubshell m second
        { second with clock := max first.clock second.clock }
      | .group isSubshell body redirects =>
        match redirectAll fuel redirects streams m with
        | (none, m) => m.withStatus 2
        | (some streams, m) =>
          let after := run fuel streams body m
          if isSubshell then leaveSubshell m after else after
      | .simple assignments words redirects =>
        let (arguments, m) := expandAll fuel streams words m
        if m.ending.isSome then m
        else match redirectAll fuel redirects streams m with
          | (none, m) => m.withStatus 2
          | (some streams, m) =>
            match arguments with
            | [] =>
              let substituted := words.any hasSubstitution ||
                assignments.any fun (_, word) => hasSubstitution word
              let m := assignAll fuel streams assignments m
              if substituted then m else m.withStatus 0
            | name :: arguments =>
              if m.ending.isSome then m else Utility.call streams name arguments m

/-- Runs the lines of a script one after the other. -/
def runScript : (fuel : Nat) → Streams → Script → Machine → Machine
  | 0, _, _, m => m
  | fuel + 1, streams, script, m =>
    match script.lines with
    | line :: lines =>
      let m := run fuel streams line m
      runScript fuel streams { script with lines := lines } { m with line := m.line + 1 }
    | [] =>
      match script.error with
      | some e => if m.ending.isSome then m else abort streams e.message m
      | none => m

end

/-- What a script leaves behind. -/
structure Outcome where
  ending : Ending
  output : Bytes
  errors : Bytes
  files : Files
  /-- The nanoseconds until everything has ended. -/
  elapsed : Nat

/-- Runs the text of a script among some files. -/
def execute (files : Files) (script : Text) : Outcome :=
  let streams : Streams := ⟨[], .output, .errors⟩
  let m := runScript (8 * script.length + 64) streams (Script.read script) (Machine.start files)
  { ending := m.ending.getD (.exited m.status)
    output := m.bytesAt .output
    errors := m.bytesAt .errors
    files := m.files
    elapsed := m.finish }

end RouteWatch.Shell
