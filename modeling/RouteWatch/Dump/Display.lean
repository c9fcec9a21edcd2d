/-
The RIB and FIB displays of a routing daemon.

    123.0.0.1/32, 4 unicast next-hops
        *via 1.1.1.2, [1/0], static
        via 2, [1/0], 00:01:10, static

A RIB header announces a number of next-hops; a FIB header is the prefix,
perhaps followed by a comma and any text. Next-hop lines are the same in
both: distance and metric stand in brackets, and the last field after a
comma is the protocol.
-/
import RouteWatch.Dump.Block
import RouteWatch.Dump.Query
import RouteWatch.Text.Digit
import RouteWatch.Text.WordChar

namespace RouteWatch.Display

/-- The two displays. -/
inductive Kind where
  | rib
  | fib
  deriving DecidableEq

/-! ## Header lines -/

/-- The characters of an address. -/
def isAddressChar (c : Char) : Bool := (Text.digitValue? 16 c).isSome || c == ':' || c == '.'

/-- The characters of an address and perhaps a slash and one to three digits, at the beginning
of a line. -/
def spanPrefix? (s : Text) : Option (Text × Text) :=
  let (address, rest) := Text.span isAddressChar s
  if address.isEmpty then none
  else match rest with
    | '/' :: rest =>
      let (digits, rest) := Text.span Text.isDecimalDigit rest
      if 1 ≤ digits.length && digits.length ≤ 3 then some (address ++ '/' :: digits, rest)
      else none
    | rest => some (address, rest)

/-- One digit or more, of any script. -/
def spanDigits? (s : Text) : Option (Text × Text) :=
  let (digits, rest) := Text.span Text.isDecimalDigit s
  if digits.isEmpty then none else some (digits, rest)

/-- The count clause of a RIB header, after the comma. -/
def countClause? (s : Text) : Option Text := do
  let s ← Text.afterBlanks? s
  let (count, s) ← spanDigits? s
  let s ← Text.afterBlanks? s
  let s ← Text.after? "unicast".toList s
  let s ← Text.afterBlanks? s
  let s ← Text.after? "next-hop".toList s
  let s := (Text.after? ['s'] s).getD s
  if Text.wordEndsAt s then some count else none

/-- The header of a RIB display. -/
def ribHeader? (line : Text) : Option Header := do
  let (target, s) ← spanPrefix? line
  let s ← Text.after? [','] s
  let count ← countClause? s
  let target ← Prefix.read? target
  return ⟨target, Text.toCount? Text.wordMax count⟩

/-- What may follow the prefix of a FIB header: nothing, or a comma and the rest of one line. -/
def isFibTail (s : Text) : Bool :=
  match Text.trimStart s with
  | [] => true
  | ',' :: s => !s.contains '\n'
  | _ => false

/-- The header of a FIB display. -/
def fibHeader? (line : Text) : Option Header := do
  let (target, s) ← spanPrefix? (Text.trimEnd line)
  if isFibTail s then
    let target ← Prefix.read? target
    return ⟨target, none⟩
  else none

/-! ## Next-hop lines -/

/-- The characters of an identifier. -/
def isIdChar (c : Char) : Bool := c != ',' && !Text.isBlank c

/-- The last of the fields between commas. -/
def lastField (s : Text) : Text := (Text.splitOn ',' s).getLast?.getD []

/-- The fields of a next-hop line, as they stand in it. Behind the brackets is its tail. -/
structure HopFields where
  id : Text
  distance : Text
  metric : Text
  tail : Text

/-- A next-hop line behind its indentation and its marker. -/
def afterMarker (line : Text) : Text :=
  let s := Text.trimStart line
  Text.trimStart ((Text.after? ['*'] s).getD s)

/-- The fields of a next-hop line. -/
def hopFields? (line : Text) : Option HopFields := do
  let s ← Text.after? "via".toList (afterMarker line)
  let s ← Text.afterBlanks? s
  let (id, s) := Text.span isIdChar s
  if id.isEmpty then none
  else
    let s ← Text.after? [','] s
    let s ← Text.after? ['['] (Text.trimStart s)
    let (distance, s) ← spanDigits? s
    let s ← Text.after? ['/'] s
    let (metric, s) ← spanDigits? s
    let tail ← Text.after? [']'] s
    if tail.contains '\n' then none else some ⟨id, distance, metric, tail⟩

/-- The identifier and the attributes of a next-hop line. -/
def nextHop? (line : Text) : Option (Text × NextHop) :=
  (hopFields? line).map fun fields =>
    (fields.id, NextHop.make fields.distance fields.metric (Protocol.read (lastField fields.tail)))

/-! ## The route -/

/-- The line grammar of a display. -/
def grammar (kind : Kind) : Grammar where
  header? := match kind with
    | .rib => ribHeader?
    | .fib => fibHeader?
  isNextHop line := (hopFields? line).isSome

/-- The route of a block. -/
def routeOf (block : Block) : Route :=
  (Route.empty block.header.target).insertAll (block.nextHopLines.filterMap nextHop?)

/-- The route that is looked for, from its first block. -/
def extract (kind : Kind) (lines : List Text) (query : Query) : Option Route :=
  ((grammar kind).blockFor? lines query.target).map fun block =>
    (routeOf block).keep? query.protocol

end RouteWatch.Display
