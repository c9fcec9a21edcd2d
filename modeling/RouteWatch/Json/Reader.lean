/-
Reading JSON text. One value, blanks around it, nothing else. Strings hold
no raw control characters and no half of a surrogate pair; numbers have no
needless zero in front; arrays and objects nest at most 127 deep.

A whole number that fits a machine word stays exact. Any other number is
made of the leading digits that fit a word, multiplied or divided by one
power of ten, in binary64 arithmetic with a rounding at each step.
-/
import RouteWatch.Json.Basic

namespace RouteWatch.Json

/-- Blanks between the tokens. -/
def isSpace (c : Char) : Bool := c == ' ' || c == '\n' || c == '\t' || c == '\r'

def skipSpace (s : Text) : Text := s.dropWhile isSpace

/-! ## Numbers -/

/-- Appends decimal digits to a word while the result still is one. The answer holds the word, the
number of digits taken, and the digits left over. -/
def appendDigits (word : Nat) : Text → Nat × Nat × Text
  | [] => (word, 0, [])
  | c :: digits =>
    let next := word * 10 + (c.toNat - '0'.toNat)
    if Text.wordMax < next then (word, 0, c :: digits)
    else
      let (word, count, rest) := appendDigits next digits
      (word, count + 1, rest)

/-- `value * 10 ^ exponent`, rounded at each step; nothing when it is too large. A word divided
twice by `10 ^ 308` is zero, so three rounds are enough. -/
def scale? (value : Binary64) : (fuel : Nat) → (exponent : Int) → Option Binary64
  | 0, _ => some value
  | fuel + 1, exponent =>
    if exponent.natAbs ≤ 308 then
      (Binary64.ofNat? (Nat.pow 10 exponent.natAbs)).bind fun power =>
        if 0 ≤ exponent then value.mul? power else value.div? power
    else if value.significand = 0 then some value
    else if 0 ≤ exponent then none
    else
      (Binary64.ofNat? (Nat.pow 10 308)).bind fun power =>
        (value.div? power).bind fun value => scale? value fuel (exponent + 308)

/-- The binary64 number of a word and a decimal exponent. -/
def double? (isNegative : Bool) (word : Nat) (exponent : Int) : Option JsonNumber :=
  (Binary64.ofNat? word).bind fun value =>
    (scale? value 4 exponent).map fun value => .double isNegative value

/-- The number of a whole part, digits after the point, and an exponent. -/
def number? (isNegative : Bool) (whole : Text) (fraction exponent : Option Text)
    (exponentNegative : Bool) : Option JsonNumber :=
  let (word, _, left) := appendDigits 0 whole
  if fraction.isNone && exponent.isNone && left.isEmpty then
    if !isNegative then some (.natural word)
    else if 0 < word && word ≤ Nat.pow 2 63 then some (.negative word)
    else double? true word 0
  else
    let (word, taken, _) := appendDigits word (fraction.getD [])
    let start : Int := left.length - taken
    match exponent with
    | none => double? isNegative word start
    | some digits =>
      match Text.toNat? 10 digits with
      | none => none
      | some e =>
        if Nat.pow 2 31 ≤ e then
          if word = 0 || exponentNegative then some (.double isNegative .zero) else none
        else double? isNegative word (if exponentNegative then start - e else start + e)

/-- The number at the beginning of a text, and what follows it. -/
def readNumber? (s : Text) : Option (JsonNumber × Text) := do
  let (isNegative, s) := match s with
    | '-' :: s => (true, s)
    | s => (false, s)
  let (whole, s) := Text.span Char.isDigit s
  guard (!whole.isEmpty && (whole.head? ≠ some '0' || whole.length = 1))
  let (fraction, s) ← match s with
    | '.' :: s =>
      let (digits, s) := Text.span Char.isDigit s
      if digits.isEmpty then none else some (some digits, s)
    | s => some (none, s)
  let (exponent, exponentNegative, s) ← match s with
    | e :: s =>
      if e = 'e' || e = 'E' then
        let (isMinus, s) := match s with
          | '-' :: s => (true, s)
          | '+' :: s => (false, s)
          | s => (false, s)
        let (digits, s) := Text.span Char.isDigit s
        if digits.isEmpty then none else some (some digits, isMinus, s)
      else some (none, false, e :: s)
    | [] => some (none, false, [])
  let value ← number? isNegative whole fraction exponent exponentNegative
  return (value, s)

/-! ## Strings -/

/-- The value of four hexadecimal digits. -/
def readUnit? : Text → Option (Nat × Text)
  | a :: b :: c :: d :: s => (Text.toNat? 16 [a, b, c, d]).map (·, s)
  | _ => none

/-- The character of a code unit written after a backslash, with the second unit of its pair. -/
def readEscape? (s : Text) : Option (Char × Text) := do
  let (first, s) ← readUnit? s
  if 0xDC00 ≤ first && first ≤ 0xDFFF then none
  else if 0xD800 ≤ first && first ≤ 0xDBFF then
    let s ← Text.after? ['\\', 'u'] s
    let (second, s) ← readUnit? s
    if 0xDC00 ≤ second && second ≤ 0xDFFF then
      some (Char.ofNat (0x10000 + (first - 0xD800) * 0x400 + (second - 0xDC00)), s)
    else none
  else some (Char.ofNat first, s)

/-- The character that one letter after a backslash stands for. -/
def escapedChar? : Char → Option Char
  | '"' => some '"'
  | '\\' => some '\\'
  | '/' => some '/'
  | 'b' => some '\x08'
  | 'f' => some '\x0C'
  | 'n' => some '\n'
  | 'r' => some '\r'
  | 't' => some '\t'
  | _ => none

/-- The rest of a string after its opening quote. Every step takes a character, so as many steps
as there are characters are enough. -/
def readString? : (fuel : Nat) → Text → Option (Text × Text)
  | 0, _ => none
  | _ + 1, [] => none
  | _ + 1, '"' :: s => some ([], s)
  | fuel + 1, '\\' :: 'u' :: s => do
    let (c, s) ← readEscape? s
    let (value, s) ← readString? fuel s
    return (c :: value, s)
  | fuel + 1, '\\' :: e :: s => do
    let c ← escapedChar? e
    let (value, s) ← readString? fuel s
    return (c :: value, s)
  | fuel + 1, c :: s =>
    if c.toNat < 0x20 || c = '\\' then none
    else (readString? fuel s).map fun (value, s) => (c :: value, s)

/-! ## Values -/

mutual

/-- The value at the beginning of a text, and what follows it. `depth` bounds the nesting and
`fuel` the length of the recursion. -/
def readValue? (depth : Nat) : (fuel : Nat) → Text → Option (Json × Text)
  | 0, _ => none
  | fuel + 1, s =>
    match skipSpace s with
    | '"' :: s => (readString? (s.length + 1) s).map fun (value, s) => (.string value, s)
    | '[' :: s =>
      if depth = 0 then none
      else match skipSpace s with
        | ']' :: s => some (.array [], s)
        | s => (readItems? (depth - 1) fuel s).map fun (items, s) => (.array items, s)
    | '\x7b' :: s =>
      if depth = 0 then none
      else match skipSpace s with
        | '\x7d' :: s => some (.object [], s)
        | s => (readFields? (depth - 1) fuel s).map fun (fields, s) => (.object fields, s)
    | 't' :: s => (Text.after? "rue".toList s).map (Json.bool true, ·)
    | 'f' :: s => (Text.after? "alse".toList s).map (Json.bool false, ·)
    | 'n' :: s => (Text.after? "ull".toList s).map (Json.null, ·)
    | s => (readNumber? s).map fun (value, s) => (.number value, s)

/-- One item or more, up to the closing bracket. -/
def readItems? (depth : Nat) : (fuel : Nat) → Text → Option (List Json × Text)
  | 0, _ => none
  | fuel + 1, s => do
    let (item, s) ← readValue? depth fuel s
    match skipSpace s with
    | ',' :: s => (readItems? depth fuel s).map fun (items, s) => (item :: items, s)
    | ']' :: s => some ([item], s)
    | _ => none

/-- One field or more, up to the closing brace. -/
def readFields? (depth : Nat) : (fuel : Nat) → Text → Option (List (Text × Json) × Text)
  | 0, _ => none
  | fuel + 1, s => do
    let s ← Text.after? ['"'] (skipSpace s)
    let (name, s) ← readString? (s.length + 1) s
    let s ← Text.after? [':'] (skipSpace s)
    let (value, s) ← readValue? depth fuel s
    match skipSpace s with
    | ',' :: s => (readFields? depth fuel s).map fun (fields, s) => ((name, value) :: fields, s)
    | '\x7d' :: s => some ([(name, value)], s)
    | _ => none

end

/-- The deepest nesting of arrays and objects. -/
def maxDepth : Nat := 127

/-- The value that a text is. -/
def read? (s : Text) : Option Json :=
  match readValue? maxDepth (2 * s.length + 2) s with
  | some (value, rest) => if (skipSpace rest).isEmpty then some value else none
  | none => none

end RouteWatch.Json
