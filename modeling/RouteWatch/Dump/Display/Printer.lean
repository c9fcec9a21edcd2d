/-
Writing the RIB and FIB displays of given routes. Next-hop lines alternate
between the two shapes that a daemon prints, and an absent distance or metric
is shown as zero.
-/
import RouteWatch.Dump.Display

namespace RouteWatch.Display

/-- The lines before the routes of a RIB display. -/
def banner : List Text :=
  ["Codes: K - kernel route, C - connected, S - static, B - BGP, O - OSPF,".toList,
    "       > - selected route, * - FIB route, q - queued, r - rejected, b - backup".toList, []]

/-- The next-hop line at an even or an odd place. -/
def nextHopLine (even : Bool) (id : Text) (hop : NextHop) : Text :=
  (if even then "  * via ".toList else "    via ".toList) ++ id ++ ", [".toList ++
    hop.distance.getD ['0'] ++ '/' :: hop.metric.getD ['0'] ++
    (if even then "], ".toList else "], 00:01:10, ".toList) ++ hop.protocol.print

/-- The next-hop lines, the first of them at an even or an odd place. -/
def nextHopLines (even : Bool) : List (Text × NextHop) → List Text
  | [] => []
  | (id, hop) :: rest => nextHopLine even id hop :: nextHopLines (!even) rest

/-- The header line of a route. -/
def headerLine (kind : Kind) (route : Route) : Text :=
  match kind with
  | .rib => route.target.cidr ++ ", ".toList ++ Text.ofNat route.count ++
      " unicast next-hops".toList
  | .fib => route.target.cidr

/-- The lines of a display. -/
def printLines (kind : Kind) (routes : List Route) : List Text :=
  (match kind with
    | .rib => banner
    | .fib => []) ++
    routes.flatMap fun route => headerLine kind route :: nextHopLines true route.hops

/-- The display of some routes. -/
def print (kind : Kind) (routes : List Route) : Text :=
  Text.joinWith ['\n'] (printLines kind routes)

end RouteWatch.Display
