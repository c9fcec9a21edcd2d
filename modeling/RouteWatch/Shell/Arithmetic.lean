/-
Arithmetic of the shell: integers of sixty-four bits that wrap around. An
expression is read into a tree by the levels of its operators, and the tree
is evaluated with the values of the variables; the right side of a logical
operator is left alone when the left side decides.
-/
import RouteWatch.Text.Count
import RouteWatch.Shell.Word

namespace RouteWatch.Shell

inductive Sign where
  | plus
  | minus
  | negation
  | complement
  deriving DecidableEq

inductive Operator where
  | times | divide | remainder
  | add | subtract
  | shiftLeft | shiftRight
  | lessEqual | greaterEqual | less | greater
  | equal | unequal
  | bitAnd | bitXor | bitOr
  | both | either
  deriving DecidableEq

inductive Expression where
  | number (n : Int)
  | variable (name : Text)
  | signed (sign : Sign) (operand : Expression)
  | binary (operator : Operator) (left right : Expression)

inductive ArithmeticError where
  | divisionByZero
  | expectedPrimary
  | expectedParenthesis
  | expectedEnd
  | illegalNumber (s : Text)
  deriving DecidableEq

/-- The complaint about an expression. -/
def ArithmeticError.message (expression : Text) : ArithmeticError → Text
  | divisionByZero => about "division by zero".toList
  | expectedPrimary => about "expecting primary".toList
  | expectedParenthesis => about "expecting ')'".toList
  | expectedEnd => about "expecting EOF".toList
  | illegalNumber s => "Illegal number: ".toList ++ s
where
  about (what : Text) : Text :=
    "arithmetic expression: ".toList ++ what ++ ": \"".toList ++ expression ++ ['"']

/-- The operators with their spelling and level. A spelling comes before the ones it begins
with. -/
def Operator.table : List (Text × Nat × Operator) :=
  [(['<', '<'], 8, shiftLeft), (['>', '>'], 8, shiftRight), (['<', '='], 7, lessEqual),
    (['>', '='], 7, greaterEqual), (['=', '='], 6, equal), (['!', '='], 6, unequal),
    (['&', '&'], 2, both), (['|', '|'], 1, either), (['*'], 10, times), (['/'], 10, divide),
    (['%'], 10, remainder), (['+'], 9, add), (['-'], 9, subtract), (['<'], 7, less),
    (['>'], 7, greater), (['&'], 5, bitAnd), (['^'], 4, bitXor), (['|'], 3, bitOr)]

/-- The operator at the beginning of a text, its level and the rest. -/
def Operator.read? (s : Text) : Option (Operator × Nat × Text) :=
  table.findSome? fun (spelling, level, operator) =>
    (Text.after? spelling s).map fun rest => (operator, level, rest)

/-- The value of sixty-four bits that a number leaves. -/
def wrap (n : Int) : Int := n.bmod (Text.wordMax + 1)

/-- The bits of a value as a natural number. -/
def bits (n : Int) : Nat := (n.emod (Int.ofNat (Text.wordMax + 1))).toNat

def ofBool (b : Bool) : Int := if b then 1 else 0

def Sign.apply : Sign → Int → Int
  | plus, n => n
  | minus, n => wrap (-n)
  | negation, n => ofBool (n == 0)
  | complement, n => -n - 1

/-- The value of an operator on two values. -/
def Operator.apply (operator : Operator) (a b : Int) : Except ArithmeticError Int :=
  match operator with
  | times => .ok (wrap (a * b))
  | divide => if b = 0 then .error .divisionByZero else .ok (wrap (a.tdiv b))
  | remainder => if b = 0 then .error .divisionByZero else .ok (a.tmod b)
  | add => .ok (wrap (a + b))
  | subtract => .ok (wrap (a - b))
  | shiftLeft => .ok (wrap (a * Int.ofNat (Nat.pow 2 (bits b % 64))))
  | shiftRight => .ok (a.fdiv (Int.ofNat (Nat.pow 2 (bits b % 64))))
  | lessEqual => .ok (ofBool (a ≤ b))
  | greaterEqual => .ok (ofBool (b ≤ a))
  | less => .ok (ofBool (a < b))
  | greater => .ok (ofBool (b < a))
  | equal => .ok (ofBool (a == b))
  | unequal => .ok (ofBool (a != b))
  | bitAnd => .ok (wrap (bits a &&& bits b : Nat))
  | bitXor => .ok (wrap (bits a ^^^ bits b : Nat))
  | bitOr => .ok (wrap (bits a ||| bits b : Nat))
  | both => .ok (ofBool (a != 0 && b != 0))
  | either => .ok (ofBool (a != 0 || b != 0))

/-- The longest number at the beginning of a text: hexadecimal after `0x`, octal after another
leading zero, decimal otherwise. -/
def readNumber (s : Text) : Nat × Text :=
  let take (base : Nat) (s : Text) : Nat × Text :=
    let (digits, rest) := Text.span (fun c => (Text.digitValue? base c).isSome) s
    ((Text.digitsValue? base 0 digits).getD 0, rest)
  let isHexadecimal (s : Text) : Bool := s.head?.any fun c => (Text.digitValue? 16 c).isSome
  match s with
  | '0' :: 'x' :: rest => if isHexadecimal rest then take 16 rest else (0, 'x' :: rest)
  | '0' :: 'X' :: rest => if isHexadecimal rest then take 16 rest else (0, 'X' :: rest)
  | '0' :: rest => take 8 rest
  | s => take 10 s

/-- The text is blank for arithmetic. -/
def isSpace (c : Char) : Bool := c == ' ' || c == '\t' || c == '\n'

mutual

/-- A number, a name, a signed operand or an expression in parentheses. -/
def readOperand : (fuel : Nat) → Text → Except ArithmeticError (Expression × Text)
  | 0, _ => .error .expectedPrimary
  | fuel + 1, s =>
    match s.dropWhile isSpace with
    | '(' :: s => do
      let (inner, s) ← readLevel fuel 0 s
      match s.dropWhile isSpace with
      | ')' :: s => return (inner, s)
      | _ => .error .expectedParenthesis
    | '+' :: s => (readOperand fuel s).map fun (e, s) => (.signed .plus e, s)
    | '-' :: s => (readOperand fuel s).map fun (e, s) => (.signed .minus e, s)
    | '!' :: s => (readOperand fuel s).map fun (e, s) => (.signed .negation e, s)
    | '~' :: s => (readOperand fuel s).map fun (e, s) => (.signed .complement e, s)
    | c :: s =>
      if c.isDigit then
        let (n, s) := readNumber (c :: s)
        .ok (.number (Int.ofNat (min n (Text.wordMax / 2))), s)
      else if isNameStart c then
        let (name, s) := Text.span isNameChar (c :: s)
        .ok (.variable name, s)
      else .error .expectedPrimary
    | [] => .error .expectedPrimary

/-- An operand and the operators of at least this level that follow it. -/
def readLevel : (fuel : Nat) → (level : Nat) → Text → Except ArithmeticError (Expression × Text)
  | 0, _, _ => .error .expectedPrimary
  | fuel + 1, level, s => do
    let (left, s) ← readOperand fuel s
    readRest fuel level left s

/-- The operators of at least this level that follow a left side. -/
def readRest : (fuel : Nat) → (level : Nat) → Expression → Text →
    Except ArithmeticError (Expression × Text)
  | 0, _, _, _ => .error .expectedEnd
  | fuel + 1, level, left, s =>
    match Operator.read? (s.dropWhile isSpace) with
    | some (operator, found, rest) =>
      if level ≤ found then do
        let (right, s) ← readLevel fuel (found + 1) rest
        readRest fuel level (.binary operator left right) s
      else .ok (left, s)
    | none => .ok (left, s)

end

/-- Reads an expression; one of blanks alone is zero. -/
def Expression.read (s : Text) : Except ArithmeticError Expression :=
  if s.all isSpace then .ok (.number 0)
  else do
    let (e, rest) ← readLevel (4 * s.length + 4) 0 s
    if rest.all isSpace then return e else .error .expectedEnd

/-- The value of a variable's text: a number with an optional sign, zero when it is empty. -/
def numberOf (s : Text) : Except ArithmeticError Int :=
  let whole (s : Text) : Option Nat :=
    if s.head?.any Char.isDigit then
      let (n, rest) := readNumber s
      if rest.all isSpace then some n else none
    else none
  match s.dropWhile isSpace with
  | [] => .ok 0
  | '-' :: digits => (whole digits).elim (.error (.illegalNumber s)) fun n => .ok (wrap (-n))
  | '+' :: digits => (whole digits).elim (.error (.illegalNumber s)) fun n => .ok (wrap n)
  | digits => (whole digits).elim (.error (.illegalNumber s)) fun n => .ok (wrap n)

/-- The value of an expression. -/
def Expression.eval (value : Text → Text) : Expression → Except ArithmeticError Int
  | number n => .ok n
  | .variable name => numberOf (value name)
  | signed sign e => (e.eval value).map sign.apply
  | binary operator left right => do
    let a ← left.eval value
    if operator = .both && a == 0 then return 0
    if operator = .either && a != 0 then return 1
    operator.apply a (← right.eval value)

/-- The value of the text of an expression. -/
def arithmetic (value : Text → Text) (s : Text) : Except ArithmeticError Int := do
  (← Expression.read s).eval value

end RouteWatch.Shell
