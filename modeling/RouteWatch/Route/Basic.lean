/-
A route is a prefix and its next-hops, each under its identifier: an address
or the name of an interface. The next-hops are a map, so their number is
always that of the distinct identifiers.
-/
import RouteWatch.Keyed
import RouteWatch.Net.Prefix
import RouteWatch.Route.Protocol

namespace RouteWatch

/-- What a dump says of one next-hop. Kernel and database dumps have no distance and no metric. -/
structure NextHop where
  distance : Option Text
  metric : Option Text
  protocol : Protocol
  deriving DecidableEq

structure Route where
  target : Prefix
  nextHops : Keyed NextHop
  deriving DecidableEq

namespace NextHop

/-- The text, unless it is empty. -/
def present? (s : Text) : Option Text := if s.isEmpty then none else some s

/-- A next-hop with these attributes, of which an empty text is an absent one. -/
def make (distance metric : Text) (protocol : Protocol) : NextHop :=
  ⟨present? distance, present? metric, protocol⟩

/-- A next-hop without distance and metric. -/
def plain (protocol : Protocol) : NextHop := ⟨none, none, protocol⟩

end NextHop

namespace Route

/-- The route without next-hops. -/
def empty (target : Prefix) : Route := ⟨target, ∅⟩

/-- The route with one more next-hop, or other attributes for one it has. -/
def insert (route : Route) (id : Text) (hop : NextHop) : Route :=
  { route with nextHops := route.nextHops.insert id hop }

/-- Puts a next-hop in, and answers the attributes that it had before. -/
def exchange (route : Route) (id : Text) (hop : NextHop) : Option NextHop × Route :=
  let (old, nextHops) := route.nextHops.exchange id hop
  (old, { route with nextHops })

/-- The route with all of these next-hops put in, in this order. -/
def insertAll (route : Route) (hops : List (Text × NextHop)) : Route :=
  hops.foldl (fun route hop => route.insert hop.1 hop.2) route

/-- The route with the next-hops of one protocol only. -/
def keep (route : Route) (protocol : Protocol) : Route :=
  { route with nextHops := route.nextHops.filter (·.protocol == protocol) }

/-- The route with the next-hops of one protocol, when one is asked for. -/
def keep? (route : Route) : Option Protocol → Route
  | none => route
  | some protocol => route.keep protocol

/-- The attributes of one next-hop. -/
def get? (route : Route) (id : Text) : Option NextHop := route.nextHops.get? id

/-- The number of next-hops. -/
def count (route : Route) : Nat := route.nextHops.size

/-- The next-hops by increasing identifier. -/
def hops (route : Route) : List (Text × NextHop) := route.nextHops.entries

end Route
end RouteWatch
