/-
The written form of an address. IPv4 is four decimal numbers. IPv6 is
lower-case hexadecimal without leading zeros, its first longest run of at
least two zero groups shortened to `::`; an address that maps an IPv4
address ends in that address's own form.
-/
import RouteWatch.Net.Address

namespace RouteWatch.Address

/-- Four numbers between points. -/
def printOctets (a b c d : UInt8) : Text :=
  Text.joinWith ['.'] ([a, b, c, d].map fun octet => Text.ofNat octet.toNat)

/-- Hexadecimal groups between colons. -/
def printGroups (groups : List UInt16) : Text :=
  Text.joinWith [':'] (groups.map fun group => Nat.toDigits 16 group.toNat)

/-- The number of zero groups that the list begins with. -/
def leadingZeros (groups : List UInt16) : Nat := (groups.takeWhile (· == 0)).length

/-- Where the first longest run of zero groups starts, and its length. -/
def longestZeros : List UInt16 → Nat × Nat
  | [] => (0, 0)
  | group :: rest =>
    let here := leadingZeros (group :: rest)
    let (start, length) := longestZeros rest
    if length ≤ here then (0, here) else (start + 1, length)

/-- The IPv4 address that the groups map, if they do. -/
def mapped? : List UInt16 → Option (UInt8 × UInt8 × UInt8 × UInt8)
  | [0, 0, 0, 0, 0, 0xFFFF, high, low] =>
    some ((high.toNat / 256).toUInt8, (high.toNat % 256).toUInt8, (low.toNat / 256).toUInt8,
      (low.toNat % 256).toUInt8)
  | _ => none

/-- The groups with their longest run of zeros shortened. -/
def printShortened (groups : List UInt16) : Text :=
  let (start, length) := longestZeros groups
  if length ≤ 1 then printGroups groups
  else
    printGroups (groups.take start) ++ [':', ':'] ++ printGroups (groups.drop (start + length))

/-- The written form of the address. -/
def print : Address → Text
  | v4 a b c d => printOctets a b c d
  | v6 groups =>
    match mapped? groups.toList with
    | some (a, b, c, d) => "::ffff:".toList ++ printOctets a b c d
    | none => printShortened groups.toList

end RouteWatch.Address
