/-
Reading a TOML document, line by line: a header, a key with its value, or
nothing, each perhaps with a comment. Arrays and inline tables may be spread
over lines, may end with a comma, and nest at most eighty deep; a key has at
most eighty parts.
-/
import RouteWatch.Toml.Quoted
import RouteWatch.Toml.Scalar

namespace RouteWatch.Toml

def skipSpace (s : Text) : Text := s.dropWhile isSpace

/-- What follows a comment, if one begins here. -/
def afterComment? (s : Text) : Option Text :=
  match s with
  | '#' :: s =>
    let rest := s.dropWhile isPrintable
    if rest.isEmpty || (afterNewline? rest).isSome then some rest else none
  | s => some s

/-- What follows the blanks, comments and line breaks within brackets. -/
def skipFilling? : (fuel : Nat) → Text → Option Text
  | 0, s => some s
  | fuel + 1, s => do
    let s ← afterComment? (skipSpace s)
    match afterNewline? s with
    | some s => skipFilling? fuel s
    | none => return s

/-- What follows the end of a line, which is nothing at the end of the document. -/
def afterLine? (s : Text) : Option Text := do
  let s ← afterComment? (skipSpace s)
  if s.isEmpty then some [] else afterNewline? s

/-- The character may stand in a key without quotes. -/
def isBare (c : Char) : Bool := c.isAlphanum || c == '_' || c == '-'

/-- One part of a key. -/
def readPart? (s : Text) : Option (Text × Text) :=
  match s with
  | '"' :: s => readBasic? (s.length + 1) s
  | '\'' :: s => readLiteral? s
  | s =>
    match Text.span isBare s with
    | ([], _) => none
    | bare => some bare

/-- The deepest nesting of arrays and inline tables, and the most parts of a key. -/
def maxDepth : Nat := 80

/-- At most `limit` parts between dots, and what follows them and their blanks. -/
def readParts? : (limit : Nat) → Text → Option (List Text × Text)
  | 0, _ => none
  | limit + 1, s => do
    let (part, s) ← readPart? (skipSpace s)
    match skipSpace s with
    | '.' :: s =>
      let (parts, s) ← readParts? limit s
      return (part :: parts, s)
    | s => return ([part], s)

/-- The parts of a key, and what follows it. -/
def readKey? (s : Text) : Option (List Text × Text) := readParts? maxDepth s

/-- The character ends a value without quotes. -/
def endsScalar (c : Char) : Bool :=
  isSpace c || c == ',' || c == '=' || c == '[' || c == ']' || c == '\x7b' || c == '\x7d' ||
    c == '#' || c == '\n' || c == '\r'

/-- A value without quotes. After a date, one space may come before the time. -/
def readScalar? (s : Text) : Option (Toml × Text) :=
  let (first, rest) := Text.span (!endsScalar ·) s
  match rest with
  | ' ' :: d :: rest' =>
    if afterDate? first == some [] && d.isDigit then
      let (time, rest) := Text.span (!endsScalar ·) (d :: rest')
      (scalar? (first ++ ' ' :: time)).map (·, rest)
    else (scalar? first).map (·, rest)
  | rest => (scalar? first).map (·, rest)

mutual

/-- The value at the beginning of a text, and what follows it. -/
def readValue? (depth : Nat) : (fuel : Nat) → Text → Option (Toml × Text)
  | 0, _ => none
  | fuel + 1, s =>
    match s with
    | '[' :: s => if depth = 0 then none else readItems? (depth - 1) fuel s
    | '\x7b' :: s => if depth = 0 then none else readFields? (depth - 1) fuel [] s
    | '"' :: _ => (readQuoted? s).map fun (value, s) => (.string value, s)
    | '\'' :: _ => (readQuoted? s).map fun (value, s) => (.string value, s)
    | s => readScalar? s

/-- The rest of an array. -/
def readItems? (depth : Nat) : (fuel : Nat) → Text → Option (Toml × Text)
  | 0, _ => none
  | fuel + 1, s => do
    match ← skipFilling? (s.length + 1) s with
    | ']' :: s => return (.array [], s)
    | s =>
      let (item, s) ← readValue? depth fuel s
      match ← skipFilling? (s.length + 1) s with
      | ']' :: s => return (.array [item], s)
      | ',' :: s =>
        match ← readItems? depth fuel s with
        | (.array items, s) => return (.array (item :: items), s)
        | _ => none
      | _ => none

/-- The rest of an inline table that has some fields already. -/
def readFields? (depth : Nat) : (fuel : Nat) → (fields : Fields) → Text → Option (Toml × Text)
  | 0, _, _ => none
  | fuel + 1, fields, s => do
    match ← skipFilling? (s.length + 1) s with
    | '\x7d' :: s => return (.table .inline fields, s)
    | s =>
      let (key, s) ← readKey? s
      let s ← Text.after? ['='] s
      let (value, s) ← readValue? depth fuel (skipSpace s)
      let fields ← assign? value key fields
      match ← skipFilling? (s.length + 1) s with
      | '\x7d' :: s => return (.table .inline fields, s)
      | ',' :: s => readFields? depth fuel fields s
      | _ => none

end

/-- The document so far: the header that is in force, and all fields. -/
structure Document where
  header : List Text
  fields : Fields

/-- Reads one line that is not empty; values may take several. -/
def readEntry? (document : Document) (s : Text) : Option (Document × Text) :=
  match s with
  | '[' :: '[' :: s => do
    let (path, s) ← readKey? s
    let s ← Text.after? [']', ']'] s
    let fields ← define? true path document.fields
    return (⟨path, fields⟩, s)
  | '[' :: s => do
    let (path, s) ← readKey? s
    let s ← Text.after? [']'] s
    let fields ← define? false path document.fields
    return (⟨path, fields⟩, s)
  | s => do
    let (key, s) ← readKey? s
    let s ← Text.after? ['='] s
    let (value, s) ← readValue? maxDepth (2 * s.length + 2) (skipSpace s)
    let fields ← assignUnder? key value document.header document.fields
    return ({ document with fields := fields }, s)

/-- Reads the lines that are left. -/
def readLines? : (fuel : Nat) → Document → Text → Option Document
  | 0, document, _ => some document
  | fuel + 1, document, s =>
    if s.isEmpty then some document
    else match afterLine? s with
      | some s => readLines? fuel document s
      | none => do
        let (document, s) ← readEntry? document (skipSpace s)
        readLines? fuel document (← afterLine? s)

/-- The fields of a document. A byte order mark at its beginning does not matter. -/
def read? (s : Text) : Option Fields :=
  let s := (Text.after? ['\uFEFF'] s).getD s
  (readLines? (s.length + 1) ⟨[], []⟩ s).map (·.fields)

end RouteWatch.Toml
