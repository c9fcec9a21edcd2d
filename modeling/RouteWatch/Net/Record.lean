/-
Addresses and prefixes as JSON. An address is its text, and a prefix is a
record of its address and its length; a list of the two stands for the
record too. Reading a record takes every length of one byte, also one that
is too long for the family: only `Prefix.make` and the texts keep to it.
-/
import RouteWatch.Json.Basic
import RouteWatch.Net.Prefix

namespace RouteWatch

namespace Address

def toJson (address : Address) : Json := .string address.print

/-- The address of a JSON text. -/
def ofJson? : Json → Option Address
  | .string s => read? s
  | _ => none

end Address

namespace Prefix

def addressKey : Text := "address".toList

def lengthKey : Text := "prefix_len".toList

/-- The record of a prefix. -/
def toJson (p : Prefix) : Json :=
  .object [(addressKey, p.address.toJson), (lengthKey, .number (.natural p.length))]

/-- A length of one byte. -/
def lengthOf? : Json → Option Nat
  | .number (.natural n) => if n ≤ 255 then some n else none
  | _ => none

/-- The prefix of the two parts of a record. -/
def ofParts? (address length : Json) : Option Prefix := do
  let address ← Address.ofJson? address
  let length ← lengthOf? length
  return ⟨address, length⟩

/-- The prefix of a record or of a list of its parts. -/
def ofJson? (value : Json) : Option Prefix :=
  match value with
  | .array [address, length] => ofParts? address length
  | value =>
    match value.field? addressKey, value.field? lengthKey with
    | some address, some length => ofParts? address length
    | _, _ => none

end Prefix
end RouteWatch
