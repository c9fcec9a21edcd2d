/-
Formatted printing. A format is plain bytes and conversions; it is used over
again as long as arguments are left and it takes any. A missing argument
counts as an empty text or as zero, and one that is no number gives the value
of the number it begins with and a complaint.
-/
import RouteWatch.Text.Utf8
import RouteWatch.Shell.Arithmetic

namespace RouteWatch.Shell.Printf

/-- A width or a precision. -/
inductive Size where
  | fixed (n : Nat)
  /-- The value of the next argument. -/
  | argument
  deriving DecidableEq

structure Spec where
  flags : Text
  width : Option Size
  precision : Option Size
  deriving DecidableEq

inductive Directive where
  | bytes (bytes : Bytes)
  | conversion (spec : Spec) (kind : Char)
  /-- The format ends here with a complaint. -/
  | wrong (complaint : Text)

/-- The byte of an escape with a letter. -/
def letterEscape? (c : Char) : Option UInt8 :=
  match c with
  | '\\' => some 0x5C
  | 'a' => some 0x07
  | 'b' => some 0x08
  | 'f' => some 0x0C
  | 'n' => some 0x0A
  | 'r' => some 0x0D
  | 't' => some 0x09
  | 'v' => some 0x0B
  | 'e' => some 0x1B
  | _ => none

/-- The value of at most `count` octal digits and the rest. -/
def takeOctal : (count acc : Nat) → Text → Nat × Text
  | 0, acc, s => (acc, s)
  | _ + 1, acc, [] => (acc, [])
  | count + 1, acc, c :: s =>
    match Text.digitValue? 8 c with
    | some d => takeOctal count (acc * 8 + d) s
    | none => (acc, c :: s)

/-- What a backslash before a text stands for, and the rest. -/
def readEscape : Text → Bytes × Text
  | [] => ([0x5C], [])
  | c :: s =>
    if (Text.digitValue? 8 c).isSome then
      let (value, rest) := takeOctal 3 0 (c :: s)
      ([value.toUInt8], rest)
    else match letterEscape? c with
      | some b => ([b], s)
      | none => ([0x5C], c :: s)

theorem length_takeOctal_le (count acc : Nat) (s : Text) :
    (takeOctal count acc s).2.length ≤ s.length := by
  induction count generalizing acc s with
  | zero => simp [takeOctal]
  | succ count ih =>
    cases s with
    | nil => simp [takeOctal]
    | cons c s =>
      rw [takeOctal]
      split
      · exact Nat.le_succ_of_le (ih _ s)
      · simp

theorem length_readEscape_le (s : Text) : (readEscape s).2.length ≤ s.length := by
  cases s with
  | nil => simp [readEscape]
  | cons c s =>
    rw [readEscape]
    split
    · exact length_takeOctal_le 3 0 (c :: s)
    · split <;> simp

/-- The bytes of a text whose escapes are expanded, and whether nothing may be printed after
them. An octal escape has up to three digits after a zero, and `\c` ends all printing. -/
def expandEscapes : Text → Bytes × Bool
  | [] => ([], false)
  | '\\' :: 'c' :: _ => ([], true)
  | '\\' :: '0' :: s =>
    let octal := takeOctal 3 0 s
    let (bytes, isEnd) := expandEscapes octal.2
    (octal.1.toUInt8 :: bytes, isEnd)
  | '\\' :: s =>
    let escape := readEscape s
    let (bytes, isEnd) := expandEscapes escape.2
    (escape.1 ++ bytes, isEnd)
  | c :: s =>
    let (bytes, isEnd) := expandEscapes s
    (Utf8.encodeChar c ++ bytes, isEnd)
termination_by s => s.length
decreasing_by
  · exact Nat.lt_add_right 1 (Nat.lt_succ_of_le (length_takeOctal_le 3 0 s))
  · exact Nat.lt_succ_of_le (length_readEscape_le s)
  · exact Nat.lt_succ_self s.length

def isFlag (c : Char) : Bool := c == '#' || c == '-' || c == '+' || c == ' ' || c == '0'

/-- A width or a precision at the beginning of a text. -/
def readSize : Text → Option Size × Text
  | '*' :: s => (some .argument, s)
  | s =>
    match Text.span Char.isDigit s with
    | ([], s) => (none, s)
    | (digits, s) => ((Text.toNat? 10 digits).map .fixed, s)

/-- The kinds of conversion. -/
def isKind (c : Char) : Bool := "bcdiosuxX".toList.contains c

/-- What follows a percent sign. -/
def readConversion (s : Text) : Directive × Text :=
  let (flags, rest) := Text.span isFlag s
  let (width, rest) := readSize rest
  let (precision, rest) := match rest with
    | '.' :: rest =>
      let (size, rest) := readSize rest
      (some (size.getD (.fixed 0)), rest)
    | rest => (none, rest)
  match rest with
  | [] => (.wrong "missing format character".toList, [])
  | c :: rest =>
    if isKind c then (.conversion ⟨flags, width, precision⟩ c, rest)
    else (.wrong ('%' :: (s.take (s.length - rest.length)) ++ ": invalid directive".toList), [])

/-- The parts of a format. -/
def directives : (fuel : Nat) → Text → List Directive
  | 0, _ => []
  | _ + 1, [] => []
  | fuel + 1, '%' :: '%' :: s => .bytes [0x25] :: directives fuel s
  | fuel + 1, '%' :: s =>
    let (directive, rest) := readConversion s
    directive :: directives fuel rest
  | fuel + 1, '\\' :: s =>
    let (escape, rest) := readEscape s
    .bytes escape :: directives fuel rest
  | fuel + 1, c :: s => .bytes (Utf8.encodeChar c) :: directives fuel s

/-- How far printing has come. -/
structure Printed where
  output : Bytes
  arguments : List Text
  /-- What was wrong with arguments or with the format. -/
  complaints : List Text
  status : Nat
  isEnded : Bool

/-- The next argument. -/
def next (p : Printed) : Text × Printed :=
  match p.arguments with
  | [] => ([], p)
  | s :: rest => (s, { p with arguments := rest })

/-- The least number of a conversion: signed or unsigned numbers of sixty-four bits. An unsigned
one may have a minus sign. -/
def least (isSigned : Bool) : Int := if isSigned then -Int.ofNat (Nat.pow 2 63) else -Text.wordMax

/-- The greatest number of a conversion. -/
def greatest (isSigned : Bool) : Int := if isSigned then Text.wordMax / 2 else Text.wordMax

/-- The number is in the range of a conversion. -/
def fits (isSigned : Bool) (n : Int) : Bool := least isSigned ≤ n && n ≤ greatest isSigned

/-- The number that stands for one out of range. -/
def clamp (isSigned : Bool) (n : Int) : Int :=
  if fits isSigned n then n
  else if isSigned && n < 0 then least isSigned
  else greatest isSigned

/-- The number that an argument denotes, with a complaint when it is not all a number or does not
fit. A quote makes it the first byte after it. -/
def numberOf (isSigned : Bool) (s : Text) : Int × Option Text :=
  let byte (c : Char) : Int := (Utf8.encodeChar c).head?.elim 0 fun b => (b.toNat : Int)
  match s with
  | '"' :: c :: _ => (byte c, none)
  | '\'' :: c :: _ => (byte c, none)
  | s =>
    let body := s.dropWhile isSpace
    let (isNegative, digits) := match body with
      | '-' :: digits => (true, digits)
      | '+' :: digits => (false, digits)
      | digits => (false, digits)
    if digits.head?.any Char.isDigit then
      let (n, rest) := readNumber digits
      let value : Int := if isNegative then -n else n
      let complaint :=
        if !rest.isEmpty then some (s ++ ": not completely converted".toList)
        else if fits isSigned value then none
        else some (s ++ ": Numerical result out of range".toList)
      (clamp isSigned value, complaint)
    else (0, if s.isEmpty then none else some (s ++ ": expected numeric value".toList))

/-- The next argument as a number. -/
def nextNumber (isSigned : Bool) (p : Printed) : Int × Printed :=
  let (s, p) := next p
  let (n, complaint) := numberOf isSigned s
  match complaint with
  | none => (n, p)
  | some complaint => (n, { p with complaints := p.complaints ++ [complaint], status := 1 })

/-- The value of a width or a precision. -/
def sizeOf (p : Printed) : Option Size → Option Int × Printed
  | none => (none, p)
  | some (.fixed n) => (some n, p)
  | some .argument =>
    let (n, p) := nextNumber true p
    (some n, p)

/-- The bytes in a field of some width. -/
def pad (isLeft : Bool) (width : Nat) (bytes : Bytes) : Bytes :=
  let filling := List.replicate (width - bytes.length) 0x20
  if isLeft then bytes ++ filling else filling ++ bytes

/-- A number's sign or base mark and its digits in a field of some width. -/
def padNumber (flags : Text) (width : Nat) (precision : Option Nat) (mark digits : Text) : Bytes :=
  let digits := List.replicate (precision.getD 1 - digits.length) '0' ++ digits
  let digits :=
    if flags.contains '0' && !flags.contains '-' && precision.isNone then
      List.replicate (width - (mark.length + digits.length)) '0' ++ digits
    else digits
  pad (flags.contains '-') width (Utf8.encode (mark ++ digits))

/-- The digits of a number in a base, none for zero. -/
def digitsOf (base n : Nat) : Text := if n = 0 then [] else Nat.toDigits base n

/-- Prints one conversion. -/
def convert (spec : Spec) (kind : Char) (p : Printed) : Printed :=
  let (width, p) := sizeOf p spec.width
  let (precision, p) := sizeOf p spec.precision
  let flags := if width.any (· < 0) then '-' :: spec.flags else spec.flags
  let width := (width.getD 0).natAbs
  let precision := precision.bind fun n => if n < 0 then none else some n.toNat
  let isLeft := flags.contains '-'
  let cut (bytes : Bytes) : Bytes := match precision with
    | some n => bytes.take n
    | none => bytes
  match kind with
  | 's' =>
    let (s, p) := next p
    { p with output := p.output ++ pad isLeft width (cut (Utf8.encode s)) }
  | 'b' =>
    let (s, p) := next p
    let (bytes, isEnd) := expandEscapes s
    { p with output := p.output ++ pad isLeft width (cut bytes), isEnded := isEnd }
  | 'c' =>
    let (s, p) := next p
    let byte := (Utf8.encode s).head?.getD 0
    { p with output := p.output ++ pad isLeft width [byte] }
  | kind =>
    let isSigned := kind = 'd' || kind = 'i'
    let (n, p) := nextNumber isSigned p
    if isSigned then
      let mark := if n < 0 then ['-'] else if flags.contains '+' then ['+']
        else if flags.contains ' ' then [' '] else []
      { p with output := p.output ++ padNumber flags width precision mark (digitsOf 10 n.natAbs) }
    else
      let n := bits n
      let (mark, digits) := match kind with
        | 'o' =>
          let digits := digitsOf 8 n
          ([], if flags.contains '#' then '0' :: digits else digits)
        | 'x' => (if flags.contains '#' && n ≠ 0 then ['0', 'x'] else [], digitsOf 16 n)
        | 'X' =>
          (if flags.contains '#' && n ≠ 0 then ['0', 'X'] else [],
            (digitsOf 16 n).map Char.toUpper)
        | _ => ([], digitsOf 10 n)
      { p with output := p.output ++ padNumber flags width precision mark digits }

/-- Prints one part of the format, unless printing has ended. -/
def step (p : Printed) (directive : Directive) : Printed :=
  if p.isEnded then p
  else match directive with
    | .bytes bytes => { p with output := p.output ++ bytes }
    | .conversion spec kind => convert spec kind p
    | .wrong complaint =>
      { p with complaints := p.complaints ++ [complaint], status := 2, isEnded := true }

/-- Uses the format until no argument is left, or once when it takes none. -/
def repeatFormat (format : List Directive) : (fuel : Nat) → Printed → Printed
  | 0, p => p
  | fuel + 1, p =>
    let after := format.foldl step p
    if after.isEnded || after.arguments.isEmpty ||
        after.arguments.length = p.arguments.length then after
    else repeatFormat format fuel after

/-- Prints the arguments by a format. -/
def print (format : Text) (arguments : List Text) : Printed :=
  repeatFormat (directives (format.length + 1) format) (arguments.length + 1)
    ⟨[], arguments, [], 0, false⟩

end RouteWatch.Shell.Printf
