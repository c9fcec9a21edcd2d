/-
Values without quotes and brackets: booleans, integers in four bases, floats
and dates. A number is recognised by its shape, which is decided first:
underscores stand between digits or after the sign, and a decimal number has
no needless zero in front. Whether a number of that shape has a value is
decided afterwards.
-/
import RouteWatch.Number.Binary64
import RouteWatch.Text.Count
import RouteWatch.Toml.Basic

namespace RouteWatch.Toml

/-- The text is a sign. -/
def isSign (s : Text) : Bool := s == ['+'] || s == ['-']

/-- Every underscore stands after a digit or the sign and before a digit. -/
def underscoresFit (isDigit : Char → Bool) (s : Text) : Bool :=
  let pieces := Text.splitOn '_' s
  pieces.dropLast.all (fun piece => isSign piece || piece.getLast?.any isDigit) &&
    pieces.tail.all (·.head?.any isDigit)

/-- The text without underscores. -/
def withoutUnderscores (s : Text) : Text := s.filter (· != '_')

/-- The sign in front of a number, and the rest. -/
def splitSign : Text → Bool × Text
  | '-' :: s => (true, s)
  | '+' :: s => (false, s)
  | s => (false, s)

/-! ## Integers -/

def isHexadecimal (c : Char) : Bool := (Text.digitValue? 16 c).isSome

/-- The digits of a number with the mark of another base than ten, which is sixteen, eight or
two. -/
def markedDigits? : Text → Option (Nat × Text)
  | '0' :: 'x' :: digits => some (16, digits)
  | '0' :: 'o' :: digits => some (8, digits)
  | '0' :: 'b' :: digits => some (2, digits)
  | _ => none

/-- The digits after a mark are digits of the base. -/
def isMarkedShape (base : Nat) (digits : Text) : Bool :=
  digits.all (fun c => c == '_' || (Text.digitValue? base c).isSome) &&
    underscoresFit isHexadecimal digits

/-- The shape of a decimal integer: digits, and after them, from an underscore on, anything that
does not make it a float. Only next to underscores must there be digits, hexadecimal ones at least,
or the sign. -/
def isDecimalShape (s : Text) : Bool :=
  let body := (splitSign s).2
  let rest := body.dropWhile Char.isDigit
  !body.isEmpty && (body.head? ≠ some '0' || body.length = 1) &&
    (rest.isEmpty || rest.head? = some '_') &&
    rest.all (fun c => c != '.' && c != 'e' && c != 'E') && underscoresFit isHexadecimal s

/-- The number has at most a hundred and twenty-eight bits, of which a negative one has a sign. -/
def fitsInteger : Int → Bool
  | .ofNat n => n < Nat.pow 2 128
  | .negSucc n => n < Nat.pow 2 127

/-- The integer, if there is one that fits. -/
def integerOf (spelling : Text) (value : Option Int) : Toml :=
  ((value.filter fitsInteger).map .integer).getD (.valueless spelling)

/-- The integer of a text that has the shape of one. -/
def integer? (s : Text) : Option Toml :=
  match markedDigits? s with
  | some (base, digits) =>
    if isMarkedShape base digits then
      some (integerOf s ((Text.toNat? base (withoutUnderscores digits)).map Int.ofNat))
    else none
  | none =>
    if isDecimalShape s then
      let (isNegative, digits) := splitSign (withoutUnderscores s)
      some (integerOf s ((Text.toNat? 10 digits).map fun n => if isNegative then -n else n))
    else none

/-! ## Floats -/

/-- A decimal number does not round to infinity. -/
def isFinite (digits : Text) (exponent : Int) : Bool :=
  match Text.digitsValue? 10 0 digits with
  | none => false
  | some 0 => true
  | some n =>
    let magnitude := (Text.ofNat n).length + exponent
    if 310 < magnitude then false
    else if magnitude < -400 then true
    else (Binary64.nearest (n * Nat.pow 10 exponent.toNat) (Nat.pow 10 (-exponent).toNat)).isSome

/-- The parts of a float. -/
structure FloatParts where
  /-- The digits before the point. -/
  whole : Text
  /-- The digits after the point. -/
  fraction : Text
  exponent : Int

/-- The digits at the beginning of a text without the underscores among them, at least one, and
what follows. -/
def spanDigits? (s : Text) : Option (Text × Text) :=
  let (run, rest) := Text.span (fun c => c.isDigit || c == '_') s
  let digits := withoutUnderscores run
  if digits.isEmpty then none else some (digits, rest)

/-- The exponent that a text is. -/
def exponent? (s : Text) : Option Int := do
  let (isNegative, s) := splitSign s
  let (digits, rest) ← spanDigits? s
  let n ← Text.toNat? 10 digits
  guard rest.isEmpty
  return if isNegative then -n else n

/-- The text is nothing, or an exponent after its letter. -/
def exponentPart? : Text → Option Int
  | [] => some 0
  | c :: s => if c = 'e' || c = 'E' then exponent? s else none

/-- The parts of a float without its sign: digits, then a fraction or an exponent or both. -/
def floatParts? (s : Text) : Option FloatParts := do
  let (whole, rest) ← spanDigits? s
  guard (s.head? ≠ some '0' || whole.length = 1)
  match rest with
  | [] => none
  | '.' :: rest =>
    let (fraction, rest) ← spanDigits? rest
    return ⟨whole, fraction, ← exponentPart? rest⟩
  | rest => return ⟨whole, [], ← exponentPart? rest⟩

/-- The number of the parts does not round to infinity. -/
def FloatParts.isFinite (parts : FloatParts) : Bool :=
  Toml.isFinite (parts.whole ++ parts.fraction) (parts.exponent - parts.fraction.length)

/-- The float of a text that has the shape of one. -/
def float? (s : Text) : Option Toml :=
  let body := (splitSign s).2
  if body = "inf".toList || body = "nan".toList then some (.float s)
  else if underscoresFit Char.isDigit s then
    (floatParts? body).map fun parts => if parts.isFinite then .float s else .valueless s
  else none

/-! ## Dates -/

/-- The number of so many digits, and the rest. -/
def digits? (count : Nat) (s : Text) : Option (Nat × Text) :=
  if (s.take count).length = count && (s.take count).all Char.isDigit then
    (Text.toNat? 10 (s.take count)).map (·, s.drop count)
  else none

def isLeapYear (year : Nat) : Bool := year % 4 = 0 && (year % 100 ≠ 0 || year % 400 = 0)

def daysIn (year month : Nat) : Nat :=
  if month = 2 then if isLeapYear year then 29 else 28
  else if month = 4 || month = 6 || month = 9 || month = 11 then 30
  else 31

/-- What follows a date. -/
def afterDate? (s : Text) : Option Text := do
  let (year, s) ← digits? 4 s
  let s ← Text.after? ['-'] s
  let (month, s) ← digits? 2 s
  let s ← Text.after? ['-'] s
  let (day, s) ← digits? 2 s
  guard (1 ≤ month && month ≤ 12 && 1 ≤ day && day ≤ daysIn year month)
  return s

/-- What follows hours and minutes. -/
def afterClock? (s : Text) : Option Text := do
  let (hour, s) ← digits? 2 s
  let s ← Text.after? [':'] s
  let (minute, s) ← digits? 2 s
  guard (hour ≤ 23 && minute ≤ 59)
  return s

/-- What follows a time of day; the seconds and their fraction may be missing. -/
def afterTime? (s : Text) : Option Text := do
  match ← afterClock? s with
  | ':' :: s =>
    let (second, s) ← digits? 2 s
    guard (second ≤ 60)
    match s with
    | '.' :: s =>
      let (fraction, s) := Text.span Char.isDigit s
      guard (!fraction.isEmpty)
      return s
    | s => return s
  | s => return s

/-- The text is nothing or the distance from universal time. -/
def isOffset (s : Text) : Bool :=
  match s with
  | [] => true
  | ['Z'] => true
  | ['z'] => true
  | c :: s => (c == '+' || c == '-') && afterClock? s == some []

/-- A date, a time of day, or both and perhaps an offset. -/
def dateTime? (s : Text) : Option Toml :=
  let isValid := match afterDate? s with
    | some [] => true
    | some (c :: rest) =>
      (c == 'T' || c == 't' || c == ' ') && (afterTime? rest).any isOffset
    | none => afterTime? s == some []
  if isValid then some (.dateTime s) else none

/-- The value of a text without quotes and brackets. -/
def scalar? (s : Text) : Option Toml :=
  if s = "true".toList then some (.boolean true)
  else if s = "false".toList then some (.boolean false)
  else (integer? s).or ((float? s).or (dateTime? s))

end RouteWatch.Toml
