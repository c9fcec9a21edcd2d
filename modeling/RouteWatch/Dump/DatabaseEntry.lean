/-
The route table entry of the application database, as its client prints it:
names and values on lines in turn.

    nexthop
    1.1.1.2,0.0.0.0
    ifname
    Ethernet0,Ethernet4
    protocol
    static

The two lists are parallel, and an unspecified gateway leaves the interface
as the next-hop. Blank lines do not count, and no line at all means that the
table has no such entry.
-/
import RouteWatch.Dump.Query

namespace RouteWatch.DatabaseEntry

def gatewaysField : Text := "nexthop".toList
def interfacesField : Text := "ifname".toList
def protocolField : Text := "protocol".toList
def blackholeField : Text := "blackhole".toList

/-- Two by two; a last one alone is dropped. -/
def pairs : List Text → List (Text × Text)
  | name :: value :: rest => (name, value) :: pairs rest
  | _ => []

/-- The fields of an entry, of which the last one of a name counts. -/
def fields (lines : List Text) : Keyed Text :=
  Keyed.ofList (pairs ((lines.map Text.trim).filter (!·.isEmpty)))

/-- The trimmed members of a list, none when there is no list. -/
def members : Option Text → List Text
  | none => []
  | some value => (Text.splitOn ',' value).map Text.trim

/-- The gateway is missing or the address of zeros. -/
def isUnspecified (gateway : Text) : Bool :=
  gateway.isEmpty || (Address.read? gateway).any (·.isUnspecified)

/-- The identifiers of two parallel lists, where a gateway comes before an interface. -/
def identifiers : (gateways interfaces : List Text) → List Text
  | [], interfaces => interfaces
  | gateway :: gateways, interfaces =>
    (if isUnspecified gateway then interfaces.head?.getD [] else gateway) ::
      identifiers gateways interfaces.tail

/-- The protocol of the next-hops: the entry's own, or the one asked for, or the kernel's. -/
def protocolOf (entry : Keyed Text) (query : Query) : Protocol :=
  match entry.get? protocolField with
  | some tag => Protocol.read tag
  | none => query.protocol.getD .kernel

/-- The route that is looked for. -/
def extract (lines : List Text) (query : Query) : Option Route :=
  let entry := fields lines
  if entry.size = 0 then none
  else if (entry.get? blackholeField).isSome then some (Route.empty query.target)
  else
    let ids := identifiers (members (entry.get? gatewaysField))
      (members (entry.get? interfacesField))
    let hop := NextHop.plain (protocolOf entry query)
    let route := (Route.empty query.target).insertAll
      ((ids.filter (!·.isEmpty)).map (·, hop))
    some (route.keep? query.protocol)

end RouteWatch.DatabaseEntry
