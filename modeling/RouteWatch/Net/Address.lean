/-
IP addresses of the two families. An IPv4 address is four octets and an
IPv6 address eight groups of sixteen bits. Addresses are ordered by family
and then by value, octet by octet or group by group.
-/
import RouteWatch.Text.Count

namespace RouteWatch

/-- The two address families. -/
inductive Family where
  | v4
  | v6
  deriving DecidableEq, Repr, Inhabited

/-- The eight groups of an IPv6 address. -/
structure Groups where
  toList : List UInt16
  length_eq : toList.length = 8
  deriving DecidableEq

inductive Address where
  | v4 (a b c d : UInt8)
  | v6 (groups : Groups)
  deriving DecidableEq

namespace Family

/-- The length in bits of an address, which is the longest prefix length. -/
def bits : Family → Nat
  | v4 => 32
  | v6 => 128

/-- The name of the family in output. -/
def name : Family → Text
  | v4 => "ipv4".toList
  | v6 => "ipv6".toList

/-- The short name of the family in data. -/
def tag : Family → Text
  | v4 => "v4".toList
  | v6 => "v6".toList

/-- The family of a short name. -/
def ofTag? (s : Text) : Option Family := [v4, v6].find? (·.tag == s)

/-- The address of zeros only. -/
def unspecified : Family → Address
  | v4 => .v4 0 0 0 0
  | v6 => .v6 ⟨List.replicate 8 0, rfl⟩

end Family

namespace Address

def family : Address → Family
  | v4 .. => .v4
  | v6 _ => .v6

/-- The address is made of zeros only. -/
def isUnspecified (address : Address) : Bool := address == address.family.unspecified

/-- The IPv6 address of eight groups. -/
def ofGroups? (groups : List UInt16) : Option Address :=
  if h : groups.length = 8 then some (.v6 ⟨groups, h⟩) else none

/-- The numbers by which addresses are ordered. -/
def sortKey : Address → List Nat
  | v4 a b c d => [4, a.toNat, b.toNat, c.toNat, d.toNat]
  | v6 groups => 6 :: groups.toList.map (·.toNat)

end Address
end RouteWatch
