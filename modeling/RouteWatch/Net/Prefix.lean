/-
Prefixes: an address and a length in bits. A bare address is the prefix of
that one host, so `10.0.0.1` and `10.0.0.1/32` read alike, and a host prefix
is written bare; `cidr` always writes the length. Reading and `Prefix.make`
keep the length within the family's bits.
-/
import RouteWatch.Net.Address.Printer
import RouteWatch.Net.Address.Reader

namespace RouteWatch

structure Prefix where
  address : Address
  length : Nat
  deriving DecidableEq

/-- Why there is no such prefix. -/
inductive PrefixError where
  | malformed (text : Text)
  | tooLong (length bits : Nat)
  deriving DecidableEq

def PrefixError.message : PrefixError → Text
  | malformed text => "invalid IP prefix format: ".toList ++ text
  | tooLong length bits =>
    "invalid IP prefix format: prefix length ".toList ++ Text.ofNat length ++
      " exceeds maximum ".toList ++ Text.ofNat bits ++ " for address type".toList

namespace Prefix

def family (p : Prefix) : Family := p.address.family

/-- The prefix of an address and a length that its family allows. -/
def make (address : Address) (length : Nat) : Except PrefixError Prefix :=
  if length ≤ address.family.bits then .ok ⟨address, length⟩
  else .error (.tooLong length address.family.bits)

/-- The prefix of one address. -/
def host (address : Address) : Prefix := ⟨address, address.family.bits⟩

/-- The prefix of all addresses of a family. -/
def defaultRoute (family : Family) : Prefix := ⟨family.unspecified, 0⟩

/-- The prefix has as many bits as its address. -/
def isHost (p : Prefix) : Bool := p.length == p.family.bits

/-- The prefix has no bits. -/
def isDefault (p : Prefix) : Bool := p.length == 0

/-- Address and length. -/
def cidr (p : Prefix) : Text := p.address.print ++ '/' :: Text.ofNat p.length

/-- Address and length, or the address alone of a host prefix. -/
def print (p : Prefix) : Text := if p.isHost then p.address.print else p.cidr

/-- The text before the last slash and the text after it. -/
def splitLastSlash? : Text → Option (Text × Text)
  | [] => none
  | c :: s =>
    match splitLastSlash? s with
    | some (before, after) => some (c :: before, after)
    | none => if c = '/' then some ([], s) else none

/-- The prefix that a text is, or why it is none. -/
def parse (s : Text) : Except PrefixError Prefix :=
  match splitLastSlash? s with
  | none =>
    match Address.read? s with
    | some address => .ok (host address)
    | none => .error (.malformed s)
  | some (before, after) =>
    match Address.read? before, Text.toCount? 255 after with
    | some address, some length => make address length
    | _, _ => .error (.malformed s)

/-- The prefix that a text is. -/
def read? (s : Text) : Option Prefix := (parse s).toOption

/-- The numbers by which prefixes are ordered. -/
def sortKey (p : Prefix) : List Nat := p.address.sortKey ++ [p.length]

/-- The prefixes in order, each of them once. -/
def sorted (prefixes : List Prefix) : List Prefix :=
  (prefixes.mergeSort fun p q => !decide (q.sortKey < p.sortKey)).eraseReps

end Prefix
end RouteWatch
