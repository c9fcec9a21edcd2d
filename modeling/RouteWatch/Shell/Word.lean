/-
Words of a shell line. Outside quotes a word ends at a blank or at an
operator. Single quotes keep everything; double quotes keep everything but
the dollar sign, the backquote, the backslash and the double quote itself,
and a backslash between them escapes only those and the line feed, which it
deletes.

What an expansion stands for is not looked at here: its text is kept for the
one who runs the line.
-/
import RouteWatch.Text.Basic

namespace RouteWatch.Shell

/-- A part of a word. -/
inductive Piece where
  | char (c : Char) (isQuoted : Bool)
  /-- A pair of quotes: the word is a field even when nothing else is in it. -/
  | quotes
  | parameter (name : Text) (isQuoted : Bool)
  | substitution (script : Text) (isQuoted : Bool)
  | arithmetic (expression : Text) (isQuoted : Bool)
  deriving DecidableEq

abbrev Word := List Piece

/-- What is wrong with a script. -/
inductive ScriptError where
  | unterminatedQuote
  | badSubstitution
  | missingBrace
  | unexpected (token : Text)
  /-- A token stands where a group should be closed. -/
  | unclosed (token closing : Text)
  deriving DecidableEq

def ScriptError.message : ScriptError → Text
  | unterminatedQuote => "Syntax error: Unterminated quoted string".toList
  | badSubstitution => "Bad substitution".toList
  | missingBrace => "Syntax error: Missing '\x7d'".toList
  | unexpected token => "Syntax error: ".toList ++ token ++ " unexpected".toList
  | unclosed token closing =>
    "Syntax error: ".toList ++ token ++ " unexpected (expecting ".toList ++ closing ++ [')']

/-- The end of the script stands where it should not. -/
def ScriptError.unexpectedEnd : ScriptError := unexpected "end of file".toList

/-- The character ends a word outside quotes. -/
def isMeta (c : Char) : Bool :=
  c == ' ' || c == '\t' || c == '\n' || c == ';' || c == '&' || c == '|' || c == '<' || c == '>' ||
    c == '(' || c == ')'

def isNameStart (c : Char) : Bool := c.isAlpha || c == '_'

def isNameChar (c : Char) : Bool := c.isAlphanum || c == '_'

/-- The names of one character that the shell itself gives values to. -/
def isSpecialName (c : Char) : Bool :=
  c == '?' || c == '$' || c == '#' || c == '!' || c == '@' || c == '*' || c == '-' || c.isDigit

/-- How far a scan for a closing parenthesis has come. -/
structure Nesting where
  depth : Nat
  /-- The quote that is open. -/
  quote : Option Char
  /-- The last character was a backslash that escapes the next one. -/
  isEscaped : Bool

/-- The text up to the parenthesis that closes the one before it, and the rest after that. -/
def spanParenthesis? (state : Nesting) : Text → Option (Text × Text)
  | [] => none
  | c :: s =>
    let go (state : Nesting) :=
      (spanParenthesis? state s).map fun (inner, rest) => (c :: inner, rest)
    if state.isEscaped then go { state with isEscaped := false }
    else match state.quote with
      | some '\'' => go { state with quote := if c = '\'' then none else state.quote }
      | some _ =>
        if c = '\\' then go { state with isEscaped := true }
        else go { state with quote := if c = '"' then none else state.quote }
      | none =>
        if c = '\\' then go { state with isEscaped := true }
        else if c = '\'' || c = '"' then go { state with quote := some c }
        else if c = '(' then go { state with depth := state.depth + 1 }
        else if c = ')' then
          if state.depth = 0 then some ([], s) else go { state with depth := state.depth - 1 }
        else go state

/-- The script up to the closing backquote, and the rest after that. A backslash goes before a
dollar sign, a backquote and a backslash, which it escapes. -/
def spanBackquote? : Text → Option (Text × Text)
  | [] => none
  | '\\' :: c :: s =>
    (spanBackquote? s).map fun (inner, rest) =>
      (if c = '$' || c = '\x60' || c = '\\' then (c :: inner, rest) else ('\\' :: c :: inner, rest))
  | c :: s =>
    if c = '\x60' then some ([], s)
    else (spanBackquote? s).map fun (inner, rest) => (c :: inner, rest)

/-- What a dollar sign before a text means. -/
inductive Dollar where
  | piece (piece : Piece) (rest : Text)
  /-- It stands for itself. -/
  | plain
  | wrong (error : ScriptError)

/-- Reads what follows a dollar sign. -/
def readDollar (isQuoted : Bool) (s : Text) : Dollar :=
  match s with
  | '(' :: '(' :: rest =>
    match spanParenthesis? ⟨0, none, false⟩ rest with
    | some (inner, ')' :: rest) => .piece (.arithmetic inner isQuoted) rest
    | _ =>
      match spanParenthesis? ⟨0, none, false⟩ ('(' :: rest) with
      | some (inner, rest) => .piece (.substitution inner isQuoted) rest
      | none => .wrong .unexpectedEnd
  | '(' :: rest =>
    match spanParenthesis? ⟨0, none, false⟩ rest with
    | some (inner, rest) => .piece (.substitution inner isQuoted) rest
    | none => .wrong .unexpectedEnd
  | '\x7b' :: rest =>
    match Text.span (· != '\x7d') rest with
    | (name, _ :: rest) =>
      if !name.isEmpty && (name.all isNameChar || (name.length = 1 && name.all isSpecialName)) then
        .piece (.parameter name isQuoted) rest
      else .wrong .badSubstitution
    | (_, []) => .wrong .missingBrace
  | c :: rest =>
    if isNameStart c then
      let (name, rest) := Text.span isNameChar (c :: rest)
      .piece (.parameter name isQuoted) rest
    else if isSpecialName c then .piece (.parameter [c] isQuoted) rest
    else .plain
  | [] => .plain

/-- Puts a piece in front of the word that was read. -/
def prepend (piece : Piece) (read : Except ScriptError (Word × Text)) :
    Except ScriptError (Word × Text) :=
  read.map fun (word, rest) => (piece :: word, rest)

/-- The text between single quotes, and the rest after the closing one. -/
def readSingle : Text → Except ScriptError (Word × Text)
  | [] => .error .unterminatedQuote
  | c :: s => if c = '\'' then .ok ([], s) else prepend (.char c true) (readSingle s)

mutual

/-- The rest of a word outside quotes, and what follows the word. -/
def readPlain : Text → Except ScriptError (Word × Text)
  | [] => .ok ([], [])
  | c :: s' =>
    if isMeta c then .ok ([], c :: s')
    else if c = '\\' then
      match s' with
      | [] => .ok ([.char '\\' true], [])
      | d :: s'' => if d = '\n' then readPlain s'' else prepend (.char d true) (readPlain s'')
    else if c = '\'' then
      match readSingle s' with
      | .error e => .error e
      | .ok (inner, rest) =>
        if rest.length ≤ s'.length then
          (readPlain rest).map fun (word, rest) => (.quotes :: inner ++ word, rest)
        else .error .unterminatedQuote
    else if c = '"' then prepend .quotes (readDouble s')
    else if c = '$' then
      match readDollar false s' with
      | .wrong e => .error e
      | .plain => prepend (.char '$' false) (readPlain s')
      | .piece piece rest =>
        if rest.length ≤ s'.length then prepend piece (readPlain rest) else .error .unexpectedEnd
    else if c = '\x60' then
      match spanBackquote? s' with
      | none => .error .unexpectedEnd
      | some (inner, rest) =>
        if rest.length ≤ s'.length then prepend (.substitution inner false) (readPlain rest)
        else .error .unexpectedEnd
    else prepend (.char c false) (readPlain s')
termination_by s => s.length
decreasing_by all_goals simp only [List.length_cons]; omega

/-- The rest of a word between double quotes, and what follows the word. -/
def readDouble : Text → Except ScriptError (Word × Text)
  | [] => .error .unterminatedQuote
  | c :: s' =>
    if c = '"' then readPlain s'
    else if c = '\\' then
      match s' with
      | [] => .error .unterminatedQuote
      | d :: s'' =>
        if d = '\n' then readDouble s''
        else if d = '$' || d = '\x60' || d = '"' || d = '\\' then
          prepend (.char d true) (readDouble s'')
        else prepend (.char '\\' true) (readDouble (d :: s''))
    else if c = '$' then
      match readDollar true s' with
      | .wrong e => .error e
      | .plain => prepend (.char '$' true) (readDouble s')
      | .piece piece rest =>
        if rest.length ≤ s'.length then prepend piece (readDouble rest) else .error .unexpectedEnd
    else if c = '\x60' then
      match spanBackquote? s' with
      | none => .error .unterminatedQuote
      | some (inner, rest) =>
        if rest.length ≤ s'.length then prepend (.substitution inner true) (readDouble rest)
        else .error .unterminatedQuote
    else prepend (.char c true) (readDouble s')
termination_by s => s.length
decreasing_by all_goals simp only [List.length_cons]; omega

end

/-- The word at the beginning of a text, and what follows it. -/
def readWord (s : Text) : Except ScriptError (Word × Text) := readPlain s

/-- The text of a word that holds no expansion. -/
def Word.literal? : Word → Option Text
  | [] => some []
  | .char c _ :: word => (Word.literal? word).map (c :: ·)
  | .quotes :: word => Word.literal? word
  | _ :: _ => none

end RouteWatch.Shell
