/-
Reading an address. IPv4 is exactly four decimal numbers of one to three
digits, without leading zeros and at most 255. IPv6 is groups of one to four
hexadecimal digits; `::` stands once for one or more zero groups, and the
last two groups may be written as an IPv4 address. Nothing may follow.
-/
import RouteWatch.Net.Address

namespace RouteWatch

/-- The text is not an address. -/
inductive AddressError where
  | malformed (text : Text)
  deriving DecidableEq

def AddressError.message : AddressError → Text
  | malformed text => "invalid IP address format: ".toList ++ text

namespace Address

/-- A run of one to `most` digits, and what follows it. -/
def readDigits? (base most : Nat) (s : Text) : Option (Text × Nat × Text) :=
  let (digits, rest) := Text.span (fun c => (Text.digitValue? base c).isSome) s
  if digits.length ≤ most then (Text.toNat? base digits).map fun value => (digits, value, rest)
  else none

/-- One number of an IPv4 address. -/
def readOctet? (s : Text) : Option (UInt8 × Text) :=
  match readDigits? 10 3 s with
  | some (digits, value, rest) =>
    if (digits.head? = some '0' && digits.length ≠ 1) || 255 < value then none
    else some (value.toUInt8, rest)
  | none => none

/-- One group of an IPv6 address. -/
def readGroup? (s : Text) : Option (UInt16 × Text) :=
  (readDigits? 16 4 s).map fun (_, value, rest) => (value.toUInt16, rest)

/-- Four octets at the beginning of a text. -/
def readOctets? (s : Text) : Option ((UInt8 × UInt8 × UInt8 × UInt8) × Text) := do
  let (a, s) ← readOctet? s
  let s ← Text.after? ['.'] s
  let (b, s) ← readOctet? s
  let s ← Text.after? ['.'] s
  let (c, s) ← readOctet? s
  let s ← Text.after? ['.'] s
  let (d, s) ← readOctet? s
  return ((a, b, c, d), s)

/-- The text after the separator that every group but the first one needs. -/
def afterSeparator? (first : Bool) (s : Text) : Option Text :=
  if first then some s else Text.after? [':'] s

/-- Up to `limit` groups at the beginning of a text. The flag tells that the last two of them were
written as an IPv4 address. -/
def readGroups : (limit : Nat) → (first : Bool) → Text → List UInt16 × Bool × Text
  | 0, _, s => ([], false, s)
  | limit + 1, first, s =>
    match (if limit = 0 then none else (afterSeparator? first s).bind readOctets?) with
    | some ((a, b, c, d), rest) =>
      ([(a.toNat * 256 + b.toNat).toUInt16, (c.toNat * 256 + d.toNat).toUInt16], true, rest)
    | none =>
      match (afterSeparator? first s).bind readGroup? with
      | some (group, rest) =>
        let (groups, quad, rest) := readGroups limit false rest
        (group :: groups, quad, rest)
      | none => ([], false, s)

/-- The groups of an IPv6 address, zeros put in for `::`. -/
def readSix? (s : Text) : Option (List UInt16 × Text) :=
  let (head, quad, rest) := readGroups 8 true s
  if head.length = 8 then some (head, rest)
  else if quad then none
  else do
    let rest ← Text.after? [':', ':'] rest
    let (tail, _, rest) := readGroups (7 - head.length) true rest
    return (head ++ List.replicate (8 - head.length - tail.length) 0 ++ tail, rest)

/-- The address that a text is. -/
def read? (s : Text) : Option Address :=
  match readOctets? s with
  | some ((a, b, c, d), rest) => if rest.isEmpty then some (.v4 a b c d) else none
  | none =>
    match readSix? s with
    | some (groups, rest) => if rest.isEmpty then ofGroups? groups else none
    | none => none

/-- The address that a text is, or why it is none. -/
def parse (s : Text) : Except AddressError Address :=
  match read? s with
  | some address => .ok address
  | none => .error (.malformed s)

end Address
end RouteWatch
