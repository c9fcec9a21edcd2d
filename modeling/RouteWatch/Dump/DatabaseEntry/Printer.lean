/-
Writing the database client's reply for a route, or for none. Gateways stand
behind one interface, and interfaces have an unspecified gateway; a route
without next-hops is a blackhole.
-/
import RouteWatch.Dump.DatabaseEntry
import RouteWatch.Dump.Kernel.Printer

namespace RouteWatch.DatabaseEntry

/-- Gateway and interface of an identifier. -/
def memberOf (family : Family) (id : Text) : Text × Text :=
  if Kernel.isGateway id then (id, Kernel.egress) else (family.unspecified.print, id)

/-- The lines of an entry. -/
def printLines (route : Route) : List Text :=
  let ids := route.nextHops.keys
  let protocol := match route.hops with
    | [] => Protocol.static
    | hop :: _ => hop.2.protocol
  (if ids.isEmpty then [blackholeField, "true".toList]
    else
      let list := ids.map (memberOf route.target.family)
      [gatewaysField, Text.joinWith [','] (list.map (·.1)), interfacesField,
        Text.joinWith [','] (list.map (·.2))]) ++
    [protocolField, protocol.print]

/-- The reply for a route; nothing is printed for an entry that is not there. -/
def print : Option Route → Text
  | none => []
  | some route => Text.joinWith ['\n'] (printLines route)

end RouteWatch.DatabaseEntry
