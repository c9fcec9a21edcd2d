/-
Writing the kernel's dump of given routes. Host prefixes lose their length;
a route without next-hops is a blackhole, one next-hop stands on the header
line, and several have a line each.
-/
import RouteWatch.Dump.Kernel

namespace RouteWatch.Kernel

/-- The interface behind which gateways are shown. -/
def egress : Text := "Ethernet0".toList

/-- The identifier is an address. -/
def isGateway (id : Text) : Bool := (Address.read? id).isSome

/-- How a next-hop is named. -/
def hopText (id : Text) : Text :=
  if isGateway id then "via ".toList ++ id ++ " dev ".toList ++ egress else "dev ".toList ++ id

/-- The end of every header line. -/
def headerTail : Text := " proto static metric 20".toList

/-- The continuation line of a next-hop. -/
def nextHopLine (id : Text) : Text := "\tnexthop ".toList ++ hopText id ++ " weight 1".toList

/-- The lines of one route. -/
def routeLines (route : Route) : List Text :=
  let destination := route.target.print
  match route.nextHops.keys with
  | [] => ["blackhole ".toList ++ destination ++ headerTail]
  | [id] => [destination ++ ' ' :: hopText id ++ headerTail]
  | ids => (destination ++ headerTail) :: ids.map nextHopLine

/-- The dump of some routes. -/
def print (routes : List Route) : Text := Text.joinWith ['\n'] (routes.flatMap routeLines)

end RouteWatch.Kernel
