/-
The protocol that installed a next-hop. Tags are read without regard to
surrounding blanks and ASCII case; a missing or unknown provenance counts as
the kernel's, and a tag with no name here is kept as it reads.
-/
import RouteWatch.Text.Blank

namespace RouteWatch

inductive Protocol where
  | static
  | bgp
  | ospf
  | connected
  | kernel
  | other (tag : Text)
  deriving DecidableEq

namespace Protocol

/-- The tag of a protocol. -/
def print : Protocol → Text
  | static => "static".toList
  | bgp => "bgp".toList
  | ospf => "ospf".toList
  | connected => "connected".toList
  | kernel => "kernel".toList
  | other tag => tag

/-- The protocol of a tag that is trimmed and in lower case. -/
def ofTag (tag : Text) : Protocol :=
  if tag = "static".toList then static
  else if tag = "bgp".toList then bgp
  else if tag = "ospf".toList then ospf
  else if tag = "connected".toList then connected
  else if tag = "kernel".toList || tag = "unknown".toList || tag = [] then kernel
  else other tag

/-- The protocol that a text names. -/
def read (s : Text) : Protocol := ofTag (Text.lower (Text.trim s))

/-- The name of the constructor. -/
def kind : Protocol → Text
  | static => "Static".toList
  | bgp => "Bgp".toList
  | ospf => "Ospf".toList
  | connected => "Connected".toList
  | kernel => "Kernel".toList
  | other _ => "Other".toList

/-- The place of the constructor in the order of protocols. -/
def rank : Protocol → Nat
  | static => 0
  | bgp => 1
  | ospf => 2
  | connected => 3
  | kernel => 4
  | other _ => 5

/-- The order of protocols: by constructor, and other tags by their text. -/
def before (p q : Protocol) : Bool :=
  p.rank < q.rank || (p.rank == q.rank && !decide (q.print < p.print))

/-- The protocols in order, each of them once. -/
def sorted (protocols : List Protocol) : List Protocol := (protocols.mergeSort before).eraseReps

end Protocol
end RouteWatch
