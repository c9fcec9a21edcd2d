/-
Commands of the shell, and reading a script into them. A script is read line
by line: what stands on the lines before a mistake is still run, and nothing
of the line with the mistake is.
-/
import RouteWatch.Shell.Word

namespace RouteWatch.Shell

/-- Where a command reads from and writes to. -/
inductive Redirect where
  | input (file : Word)
  | output (stream : Nat) (isAppend : Bool) (file : Word)
  | duplicate (stream : Nat) (target : Word)

inductive Command where
  | nothing
  | simple (assignments : List (Text × Word)) (words : List Word) (redirects : List Redirect)
  | group (isSubshell : Bool) (body : Command) (redirects : List Redirect)
  | pipe (left right : Command)
  | negation (command : Command)
  | both (left right : Command)
  | either (left right : Command)
  | sequence (left right : Command)
  | background (command : Command)

/-- A script cut into the lines that can be run, and the mistake at which reading stopped. -/
structure Script where
  lines : List Command
  error : Option ScriptError

/-- Takes away blanks and a backslash before a line feed, and a comment up to its line feed. -/
def skipBlanks (inComment : Bool) : Text → Text
  | [] => []
  | c :: s =>
    if inComment then
      if c = '\n' then c :: s else skipBlanks true s
    else if c = ' ' || c = '\t' then skipBlanks false s
    else if c = '#' then skipBlanks true s
    else match c, s with
      | '\\', '\n' :: s => skipBlanks false s
      | c, s => c :: s

/-- The text without the blanks and line feeds in front. -/
def skipLines : (fuel : Nat) → Text → Text
  | 0, s => s
  | fuel + 1, s =>
    match skipBlanks false s with
    | '\n' :: s => skipLines fuel s
    | s => s

/-- The name and the value of a word that assigns. -/
def assignment? : Word → Option (Text × Word)
  | .char '=' false :: _ => none
  | word => go [] word
where
  go (name : Text) : Word → Option (Text × Word)
    | .char c false :: word =>
      if c = '=' then some (name.reverse, word)
      else if (if name.isEmpty then isNameStart c else isNameChar c) then go (c :: name) word
      else none
    | _ => none

/-- How an operator is named in a complaint. -/
def tokenName : Text → Text
  | [] => "end of file".toList
  | '\n' :: _ => "newline".toList
  | '&' :: '&' :: _ => "\"&&\"".toList
  | '|' :: '|' :: _ => "\"||\"".toList
  | ';' :: ';' :: _ => "\";;\"".toList
  | c :: _ => ['"', c, '"']

/-- The redirection at the beginning of a text, if there is one. -/
def readRedirect? (s : Text) : Option (Except ScriptError (Redirect × Text)) :=
  let (digits, rest) := Text.span Char.isDigit s
  let stream (standard : Nat) := match digits with
    | [] => standard
    | c :: _ => c.toNat - '0'.toNat
  let target (make : Word → Redirect) (s : Text) : Option (Except ScriptError (Redirect × Text)) :=
    let s := skipBlanks false s
    match readWord s with
    | .error e => some (.error e)
    | .ok ([], rest) => some (.error (.unexpected (tokenName rest)))
    | .ok (word, rest) => some (.ok (make word, rest))
  if 1 < digits.length then none
  else match rest with
    | '<' :: s => target .input s
    | '>' :: '>' :: s => target (.output (stream 1) true) s
    | '>' :: '&' :: s => target (.duplicate (stream 1)) s
    | '>' :: '|' :: s => target (.output (stream 1) false) s
    | '>' :: s => target (.output (stream 1) false) s
    | _ => none

/-- The redirections at the beginning of a text. -/
def readRedirects : (fuel : Nat) → Text → Except ScriptError (List Redirect × Text)
  | 0, s => .ok ([], s)
  | fuel + 1, s =>
    match readRedirect? (skipBlanks false s) with
    | none => .ok ([], s)
    | some (.error e) => .error e
    | some (.ok (redirect, s)) =>
      (readRedirects fuel s).map fun (rest, s) => (redirect :: rest, s)

/-- The parts of a simple command: assignments only before the first other word. -/
def readSimple : (fuel : Nat) → (isFirst : Bool) → Text →
    Except ScriptError ((List (Text × Word) × List Word × List Redirect) × Text)
  | 0, _, s => .ok (([], [], []), s)
  | fuel + 1, isFirst, s =>
    let s := skipBlanks false s
    match readRedirect? s with
    | some (.error e) => .error e
    | some (.ok (redirect, s)) =>
      (readSimple fuel isFirst s).map fun ((assignments, words, redirects), s) =>
        ((assignments, words, redirect :: redirects), s)
    | none =>
      match readWord s with
      | .error e => .error e
      | .ok ([], s) => .ok (([], [], []), s)
      | .ok (word, s) =>
        match (if isFirst then assignment? word else none) with
        | some assignment =>
          (readSimple fuel true s).map fun ((assignments, words, redirects), s) =>
            ((assignment :: assignments, words, redirects), s)
        | none =>
          (readSimple fuel false s).map fun ((assignments, words, redirects), s) =>
            ((assignments, word :: words, redirects), s)

/-- The word stands alone at the beginning of a text. -/
def afterReserved? (word s : Text) : Option Text :=
  (Text.after? word s).bind fun rest =>
    match rest with
    | [] => some []
    | c :: s => if isMeta c then some (c :: s) else none

mutual

/-- One command with its redirections. -/
def readCommand : (fuel : Nat) → Text → Except ScriptError (Command × Text)
  | 0, _ => .error .unexpectedEnd
  | fuel + 1, s =>
    let s := skipBlanks false s
    match s with
    | '(' :: rest => do
      let (body, rest) ← readBody fuel rest
      match rest with
      | ')' :: rest =>
        let (redirects, rest) ← readRedirects fuel rest
        return (.group true body redirects, rest)
      | rest => .error (.unclosed (tokenName rest) "\")\"".toList)
    | s =>
      match afterReserved? ['\x7b'] s with
      | some rest => do
        let (body, rest) ← readBody fuel rest
        match afterReserved? ['\x7d'] rest with
        | some rest =>
          let (redirects, rest) ← readRedirects fuel rest
          return (.group false body redirects, rest)
        | none => .error (.unclosed (tokenName rest) "\"\x7d\"".toList)
      | none => do
        let ((assignments, words, redirects), rest) ← readSimple (s.length + 1) true s
        if assignments.isEmpty && words.isEmpty && redirects.isEmpty then
          .error (.unexpected (tokenName rest))
        else return (.simple assignments words redirects, rest)

/-- Commands between bars, perhaps after an exclamation mark. -/
def readPipeline : (fuel : Nat) → Text → Except ScriptError (Command × Text)
  | 0, _ => .error .unexpectedEnd
  | fuel + 1, s =>
    match afterReserved? ['!'] (skipBlanks false s) with
    | some s =>
      if (afterReserved? ['!'] (skipBlanks false s)).isSome then
        .error (.unexpected "\"!\"".toList)
      else (readPipeline fuel s).map fun (command, s) => (.negation command, s)
    | none => do
      let (left, s) ← readCommand fuel s
      let s := skipBlanks false s
      match s with
      | '|' :: '|' :: _ => return (left, s)
      | '|' :: s =>
        let (right, s) ← readPipeline fuel (skipLines s.length s)
        return (.pipe left right, s)
      | s => return (left, s)

/-- Pipelines between `&&` and `||`, put together from the left. -/
def readChain : (fuel : Nat) → (before : Option (Command × Bool)) → Text →
    Except ScriptError (Command × Text)
  | 0, _, _ => .error .unexpectedEnd
  | fuel + 1, before, s => do
    let (pipeline, s) ← readPipeline fuel s
    let command := match before with
      | none => pipeline
      | some (left, true) => .both left pipeline
      | some (left, false) => .either left pipeline
    match skipBlanks false s with
    | '&' :: '&' :: s => readChain fuel (some (command, true)) (skipLines s.length s)
    | '|' :: '|' :: s => readChain fuel (some (command, false)) (skipLines s.length s)
    | s => return (command, s)

/-- The commands of one line. -/
def readLine : (fuel : Nat) → Text → Except ScriptError (Command × Text)
  | 0, _ => .error .unexpectedEnd
  | fuel + 1, s =>
    let s := skipBlanks false s
    if s.isEmpty || s.head? = some '\n' || s.head? = some ')' ||
        (afterReserved? ['\x7d'] s).isSome then .ok (.nothing, s)
    else do
      let (command, s) ← readChain fuel none s
      match s with
      | ';' :: ';' :: _ => .error (.unexpected (tokenName s))
      | ';' :: s =>
        let (rest, s) ← readLine fuel s
        return (.sequence command rest, s)
      | '&' :: s =>
        let (rest, s) ← readLine fuel s
        return (.sequence (.background command) rest, s)
      | s => return (command, s)

/-- The lines of a group, up to what closes it. -/
def readBody : (fuel : Nat) → Text → Except ScriptError (Command × Text)
  | 0, _ => .error .unexpectedEnd
  | fuel + 1, s => do
    let (line, s) ← readLine fuel s
    match s with
    | '\n' :: s =>
      let (rest, s) ← readBody fuel s
      return (.sequence line rest, s)
    | s => return (line, s)

end

/-- The lines of a script. -/
def readLines : (fuel : Nat) → Text → Script
  | 0, _ => ⟨[], some .unexpectedEnd⟩
  | fuel + 1, s =>
    match readLine (4 * s.length + 8) s with
    | .error e => ⟨[], some e⟩
    | .ok (line, []) => ⟨[line], none⟩
    | .ok (line, '\n' :: s) =>
      let rest := readLines fuel s
      ⟨line :: rest.lines, rest.error⟩
    | .ok (_, s) => ⟨[], some (.unexpected (tokenName s))⟩

/-- Reads a script. -/
def Script.read (s : Text) : Script := readLines (s.length + 1) s

end RouteWatch.Shell
