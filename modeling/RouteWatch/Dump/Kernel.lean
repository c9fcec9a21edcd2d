/-
The kernel's route dump.

    123.0.0.1 proto static metric 20
            nexthop via 1.1.1.2 dev Ethernet0 weight 1
            nexthop dev Ethernet4 weight 1
    20.0.0.0/24 via 10.0.0.2 dev Ethernet0 proto bgp metric 20

A header is an unindented line that begins with a destination of the family
at hand, perhaps after the kind of the route. A next-hop is named by its
gateway or else by its device, on the header or on an indented line, and all
blocks of a prefix belong to one route.
-/
import RouteWatch.Dump.Block
import RouteWatch.Dump.Query
import RouteWatch.Dump.Display

namespace RouteWatch.Kernel

/-- The kinds of routes that may be named before the destination. -/
def routeKinds : List Text :=
  ["unicast".toList, "local".toList, "broadcast".toList, "blackhole".toList,
    "unreachable".toList, "prohibit".toList, "throw".toList, "anycast".toList, "multicast".toList]

/-- The prefix that a destination names. -/
def destination? (family : Family) (word : Text) : Option Prefix :=
  if word = "default".toList then some (Prefix.defaultRoute family)
  else (Prefix.read? word).filter (·.family == family)

/-- The word that names the destination. -/
def destinationWord? : List Text → Option Text
  | [] => none
  | first :: rest => if routeKinds.contains first then rest.head? else some first

/-- The header of a line. -/
def header? (family : Family) (line : Text) : Option Header := do
  if Text.startsBlank line then none
  let word ← destinationWord? (Text.words line)
  let target ← destination? family word
  return ⟨target, none⟩

/-- The line is indented and begins with the word `nexthop`. -/
def isNextHopLine (line : Text) : Bool :=
  Text.startsBlank line && (Text.after? "nexthop ".toList (Text.trimStart line)).isSome

/-- The text after a keyword and the blanks behind it. -/
def afterKeyword? (keyword s : Text) : Option Text :=
  (Text.after? keyword s).bind Text.afterBlanks?

/-- Takes the word `inet` or `inet6` and the blanks after it away. -/
def skipInet (s : Text) : Text :=
  match Text.after? "inet".toList s with
  | some rest => (Text.afterBlanks? ((Text.after? ['6'] rest).getD rest)).getD s
  | none => s

/-- The gateway named at the beginning of a text. -/
def viaHere? (s : Text) : Option Text := do
  let s ← afterKeyword? "via".toList s
  let gateway := (skipInet s).takeWhile Display.isAddressChar
  if gateway.isEmpty then none else some gateway

/-- The device named at the beginning of a text. -/
def deviceHere? (s : Text) : Option Text := do
  let s ← afterKeyword? "dev".toList s
  let device := s.takeWhile (!Text.isBlank ·)
  if device.isEmpty then none else some device

/-- The first answer of `here?` at a place where no word is cut, `before` being the character in
front of the text. -/
def search? (here? : Text → Option Text) (before : Option Char) : Text → Option Text
  | [] => none
  | c :: s =>
    match (if Text.wordEndsBefore before then here? (c :: s) else none) with
    | some found => some found
    | none => search? here? (some c) s

/-- The identifier of the next-hop that a line names. -/
def nextHop? (line : Text) : Option Text :=
  (search? viaHere? none line).or (search? deviceHere? none line)

/-- The line grammar for one family. -/
def grammar (family : Family) : Grammar where
  header? := header? family
  isNextHop := isNextHopLine

/-- The route that is looked for, from all of its blocks. -/
def extract (lines : List Text) (query : Query) : Option Route :=
  match (grammar query.target.family).blocksFor lines query.target with
  | [] => none
  | first :: rest =>
    let ids := (first :: rest).flatMap fun block => block.lines.filterMap nextHop?
    let hop := NextHop.plain (query.protocol.getD .kernel)
    some ((Route.empty first.header.target).insertAll (ids.map (·, hop)))

end RouteWatch.Kernel
