/-
Locating a route in a dump. Dumps have no marks between routes: a route
ends where the next header line begins. The first pass finds the header
lines, the second gives each header the next-hop lines between it and the
header after it. Headers are compared by their parsed prefix, so `10.0.0.1`
is never found in `10.0.0.10/32`.
-/
import RouteWatch.Net.Prefix

namespace RouteWatch

/-- What a header line says. -/
structure Header where
  target : Prefix
  /-- The number of next-hops that the header announces, if it does. -/
  declared : Option Nat
  deriving DecidableEq

/-- The line grammar of a dump. -/
structure Grammar where
  header? : Text → Option Header
  isNextHop : Text → Bool

/-- A header line and its place in the dump. -/
structure HeaderLine where
  index : Nat
  line : Text
  header : Header
  deriving DecidableEq

/-- The lines of one route. -/
structure Block where
  headerLine : HeaderLine
  nextHopLines : List Text
  deriving DecidableEq

namespace Block

def header (block : Block) : Header := block.headerLine.header

/-- The header line and the next-hop lines. -/
def lines (block : Block) : List Text := block.headerLine.line :: block.nextHopLines

end Block

namespace Grammar

/-- The header lines, the first of the lines being number `index`. -/
def headersFrom (g : Grammar) (index : Nat) : List Text → List HeaderLine
  | [] => []
  | line :: rest =>
    match g.header? line with
    | some header => ⟨index, line, header⟩ :: headersFrom g (index + 1) rest
    | none => headersFrom g (index + 1) rest

/-- First pass: every header line in order. -/
def headers (g : Grammar) (lines : List Text) : List HeaderLine := g.headersFrom 0 lines

/-- The lines from number `start` to before number `stop`. -/
def slice (lines : List Text) (start stop : Nat) : List Text :=
  (lines.drop start).take (stop - start)

/-- Where the block before these headers ends. -/
def stopAt (lines : List Text) : List HeaderLine → Nat
  | [] => lines.length
  | next :: _ => next.index

/-- The blocks of consecutive headers. -/
def blocksOf (g : Grammar) (lines : List Text) : List HeaderLine → List Block
  | [] => []
  | first :: rest =>
    ⟨first, (slice lines (first.index + 1) (stopAt lines rest)).filter g.isNextHop⟩ ::
      blocksOf g lines rest

/-- Second pass: the block of every header, in order. -/
def blocks (g : Grammar) (lines : List Text) : List Block := g.blocksOf lines (g.headers lines)

/-- The blocks of one prefix, in order. -/
def blocksFor (g : Grammar) (lines : List Text) (target : Prefix) : List Block :=
  (g.blocks lines).filter (·.header.target == target)

/-- The first block of a prefix. -/
def blockFor? (g : Grammar) (lines : List Text) (target : Prefix) : Option Block :=
  (g.blocks lines).find? (·.header.target == target)

end Grammar
end RouteWatch
