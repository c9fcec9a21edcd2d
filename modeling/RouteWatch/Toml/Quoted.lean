/-
Quoted texts. Double quotes allow escapes and single quotes take everything
as it is; three quotes in a row allow line breaks, drop one that stands
right after them, and close with up to two more quotes that belong to the
text. Control characters other than the tab are refused.
-/
import RouteWatch.Text.Count

namespace RouteWatch.Toml

/-- The character may stand in a comment or between quotes. -/
def isPrintable (c : Char) : Bool := c == '\t' || (0x20 ≤ c.toNat && c.toNat ≠ 0x7F)

/-- A space or a tab. -/
def isSpace (c : Char) : Bool := c == ' ' || c == '\t'

/-- What follows a line break. -/
def afterNewline? : Text → Option Text
  | '\n' :: s => some s
  | '\r' :: '\n' :: s => some s
  | _ => none

/-- The character of so many hexadecimal digits, and the rest. -/
def codePoint? (count : Nat) (s : Text) : Option (Char × Text) := do
  let digits := s.take count
  guard (digits.length = count)
  let n ← Text.toNat? 16 digits
  if h : n.isValidChar then return (Char.ofNatAux n h, s.drop count) else none

/-- The character that an escape stands for, and the rest. -/
def escape? : Text → Option (Char × Text)
  | 'b' :: s => some ('\x08', s)
  | 't' :: s => some ('\t', s)
  | 'n' :: s => some ('\n', s)
  | 'f' :: s => some ('\x0C', s)
  | 'r' :: s => some ('\r', s)
  | 'e' :: s => some ('\x1B', s)
  | '"' :: s => some ('"', s)
  | '\\' :: s => some ('\\', s)
  | 'x' :: s => codePoint? 2 s
  | 'u' :: s => codePoint? 4 s
  | 'U' :: s => codePoint? 8 s
  | _ => none

/-- The rest of a text in double quotes, and what follows it. -/
def readBasic? : (fuel : Nat) → Text → Option (Text × Text)
  | 0, _ => none
  | _ + 1, [] => none
  | fuel + 1, c :: s =>
    if c = '"' then some ([], s)
    else if c = '\\' then do
      let (c, s) ← escape? s
      let (value, s) ← readBasic? fuel s
      return (c :: value, s)
    else if isPrintable c then (readBasic? fuel s).map fun (value, s) => (c :: value, s)
    else none

/-- The rest of a text in single quotes, and what follows it. -/
def readLiteral? : Text → Option (Text × Text)
  | [] => none
  | c :: s =>
    if c = '\'' then some ([], s)
    else if isPrintable c then (readLiteral? s).map fun (value, s) => (c :: value, s)
    else none

/-- The text without the blanks and line breaks in front. -/
def skipBreaks : Text → Text
  | '\r' :: '\n' :: s => skipBreaks s
  | c :: s => if isSpace c || c == '\n' then skipBreaks s else c :: s
  | [] => []

/-- The text after a backslash at the end of a line: it takes the blanks and line breaks that
follow. -/
def afterContinuation? (s : Text) : Option Text :=
  (afterNewline? (s.dropWhile isSpace)).map skipBreaks

/-- The rest of a text between three quotes and three quotes. -/
def readLong? (quote : Char) : (fuel : Nat) → Text → Option (Text × Text)
  | 0, _ => none
  | _ + 1, [] => none
  | fuel + 1, c :: s =>
    if c = quote then
      let (more, rest) := Text.span (· == quote) s
      let count := more.length + 1
      if 3 ≤ count then
        let inner := min (count - 3) 2
        some (List.replicate inner quote, (c :: s).drop (3 + inner))
      else (readLong? quote fuel rest).map fun (value, s) => (c :: more ++ value, s)
    else if c = '\\' && quote = '"' then
      match afterContinuation? s with
      | some s => readLong? quote fuel s
      | none => do
        let (c, s) ← escape? s
        let (value, s) ← readLong? quote fuel s
        return (c :: value, s)
    else if isPrintable c || (afterNewline? (c :: s)).isSome then
      (readLong? quote fuel s).map fun (value, s) => (c :: value, s)
    else none

/-- The text in any kind of quotes at the beginning of a text, and what follows it. -/
def readQuoted? (s : Text) : Option (Text × Text) :=
  let long (quote : Char) (s : Text) : Option (Text × Text) :=
    readLong? quote (s.length + 1) ((afterNewline? s).getD s)
  match s with
  | '"' :: '"' :: '"' :: s => long '"' s
  | '\'' :: '\'' :: '\'' :: s => long '\'' s
  | '"' :: s => readBasic? (s.length + 1) s
  | '\'' :: s => readLiteral? s
  | _ => none

end RouteWatch.Toml
