/-
Sample routes for trying a dump or a comparison: a static route over one or
four next-hops, a kernel's and a BGP route, and neighbours whose text holds
that of another one.
-/
import RouteWatch.Route.Mapping

namespace RouteWatch.Route.Sample

/-- The route of a prefix, or the complaint about its text. -/
def ofPrefix (s : Text) : Except Text Route :=
  (ofPrefixText s).mapError fun e =>
    "bad fixture prefix ".toList ++ s ++ ": ".toList ++ e.message

/-- A static next-hop of distance one and metric zero. -/
def staticHop : NextHop := NextHop.make ['1'] ['0'] .static

/-- A next-hop learned by external BGP. -/
def ebgpHop : NextHop := NextHop.make ['2', '0'] ['0'] .bgp

/-- The route over these next-hops, all with the same attributes. -/
def withHops (s : Text) (ids : List Text) (hop : NextHop) : Except Text Route :=
  (ofPrefix s).map fun route => route.insertAll (ids.map fun id => (id, hop))

/-- A static route over one next-hop. -/
def singleHop (s id : Text) : Except Text Route := withHops s [id] staticHop

/-- A route as the kernel shows it. -/
def kernel (s : Text) (ids : List Text) (protocol : Text) : Except Text Route :=
  withHops s ids (NextHop.plain (Protocol.read protocol))

/-- A subnet on one interface. -/
def connected (s interface : Text) : Except Text Route := kernel s [interface] "kernel".toList

/-- A route learned by external BGP. -/
def ebgp (s : Text) (ids : List Text) : Except Text Route := withHops s ids ebgpHop

/-- The prefix of the route over four next-hops. -/
def multipathPrefix : Text := "123.0.0.1/32".toList

def multipathHops : List Text := ["1.1.1.2".toList, ['2'], ['3'], "5.5.5.1".toList]

/-- A host route over four static next-hops. -/
def multipath : Except Text Route := withHops multipathPrefix multipathHops staticHop

/-- The mapping form of that route. -/
def multipathMapping : Json :=
  .object ((routeKey, .string multipathPrefix) :: (countKey, .string ['4']) ::
    multipathHops.map fun id =>
      (id, .object [(Field.distance.key, .string ['1']), (Field.metric.key, .string ['0']),
        (Field.protocol.key, .string "static".toList)]))

/-- The mapping form and the route agree. -/
def mappingAgrees : Bool :=
  match ofMapping multipathMapping, multipath with
  | .ok read, .ok route => read == route
  | _, _ => false

/-- Routes whose texts hold that of the route over four next-hops, and this route itself. -/
def neighbours : Except Text (List Route) :=
  [singleHop "123.0.0.10/32".toList "9.9.9.9".toList,
    singleHop "123.0.0.0/24".toList "8.8.8.8".toList, multipath,
    ebgp "10.123.0.1/32".toList ["7.7.7.7".toList]].mapM id

end RouteWatch.Route.Sample
