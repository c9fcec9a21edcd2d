/-
Counts in decimal text. Writing gives the digits without leading zeros;
reading takes any run of ASCII digits, one plus sign before it, and a bound
that the value must not exceed.
-/
import RouteWatch.Text.Basic

namespace RouteWatch.Text

/-- The decimal digits of a number. -/
def ofNat (n : Nat) : Text := Nat.toDigits 10 n

/-- The decimal digits of a number, after a minus sign when it is negative. -/
def ofInt : Int → Text
  | .ofNat n => ofNat n
  | .negSucc n => '-' :: ofNat (n + 1)

/-- The value of one digit in a base up to sixteen, letters of either case. -/
def digitValue? (base : Nat) (c : Char) : Option Nat :=
  let value :=
    if c.isDigit then some (c.toNat - '0'.toNat)
    else if 'a' ≤ c && c ≤ 'f' then some (c.toNat - 'a'.toNat + 10)
    else if 'A' ≤ c && c ≤ 'F' then some (c.toNat - 'A'.toNat + 10)
    else none
  value.filter (· < base)

/-- The value of a run of digits, added to `acc` shifted before them. -/
def digitsValue? (base acc : Nat) : Text → Option Nat
  | [] => some acc
  | c :: s => (digitValue? base c).bind fun d => digitsValue? base (acc * base + d) s

/-- The value of a text that is one or more digits and nothing else. -/
def toNat? (base : Nat) : Text → Option Nat
  | [] => none
  | s => digitsValue? base 0 s

/-- The value of a decimal count: digits, perhaps after a plus sign, not above `max`. -/
def toCount? (max : Nat) : Text → Option Nat
  | '+' :: s => (toNat? 10 s).filter (· ≤ max)
  | s => (toNat? 10 s).filter (· ≤ max)

/-- The largest count a machine word holds. -/
def wordMax : Nat := 18446744073709551615

/-- The largest count half a machine word holds. -/
def halfWordMax : Nat := 4294967295

end RouteWatch.Text
