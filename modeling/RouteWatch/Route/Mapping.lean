/-
The mapping form of a route: an object with the prefix under `Route`, the
number of next-hops under `NumberNexthops`, and one object per next-hop under
its identifier. Reading takes numbers for texts, an absent attribute for an
empty one, and refuses a count that disagrees.
-/
import RouteWatch.Route.Basic
import RouteWatch.Json.Basic

namespace RouteWatch

/-- The attributes of a next-hop that have a name in the mapping form. -/
inductive Field where
  | distance
  | metric
  | protocol
  deriving DecidableEq

def Field.key : Field → Text
  | distance => "Distance".toList
  | metric => "Metric".toList
  | protocol => "RouteType".toList

/-- Why a value is no expected state. -/
inductive ExpectationError where
  | notMapping
  | missingRoute
  | badPrefix (reason : PrefixError)
  | hopNotMapping (id : Text)
  | fieldNotText (id : Text) (field : Field)
  | countNotNumber
  | countMismatch (declared listed : Nat)
  deriving DecidableEq

/-- What is wrong with the value. -/
def ExpectationError.reason : ExpectationError → Text
  | notMapping => "expected state is not a mapping".toList
  | missingRoute => "missing Route".toList
  | badPrefix reason => reason.message
  | hopNotMapping id => "next-hop ".toList ++ id ++ " is not a mapping".toList
  | fieldNotText id field =>
    "next-hop ".toList ++ id ++ " field ".toList ++ field.key ++ " is not text".toList
  | countNotNumber => "NumberNexthops is not a count".toList
  | countMismatch declared listed =>
    "NumberNexthops is ".toList ++ Text.ofNat declared ++ " but ".toList ++ Text.ofNat listed ++
      " next-hops are listed".toList

def ExpectationError.message (e : ExpectationError) : Text :=
  "Invalid expected route state: ".toList ++ e.reason

/-- The key of the prefix. -/
def routeKey : Text := "Route".toList

/-- The key of the number of next-hops. -/
def countKey : Text := "NumberNexthops".toList

namespace NextHop

/-- The text of an attribute, empty when it is absent. -/
def text (hop : NextHop) : Field → Text
  | .distance => hop.distance.getD []
  | .metric => hop.metric.getD []
  | .protocol => hop.protocol.print

/-- The mapping form of a next-hop. -/
def toMapping (hop : NextHop) : Json :=
  .object ([.distance, .metric, .protocol].map fun field : Field =>
    (field.key, .string (hop.text field)))

/-- The text of an attribute in the mapping form. -/
def mappedText (id : Text) (fields : Keyed Json) (field : Field) :
    Except ExpectationError Text :=
  match fields.get? field.key with
  | none => .ok []
  | some .null => .ok []
  | some value =>
    match value.scalarText? with
    | some s => .ok s
    | none => .error (.fieldNotText id field)

/-- The next-hop of a mapping form. -/
def ofMapping (id : Text) (value : Json) : Except ExpectationError NextHop :=
  match value.object? with
  | none => .error (.hopNotMapping id)
  | some fields => do
    let distance ← mappedText id fields .distance
    let metric ← mappedText id fields .metric
    let protocol ← mappedText id fields .protocol
    return make distance metric (Protocol.read protocol)

end NextHop

namespace Route

/-- The mapping form as a map. A next-hop whose identifier is one of the two other keys takes
that key's place. -/
def mapping (route : Route) : Keyed Json :=
  Keyed.ofList ((routeKey, .string route.target.print) ::
    (countKey, .string (Text.ofNat route.count)) ::
      route.hops.map fun hop => (hop.1, hop.2.toMapping))

/-- The mapping form of a route. -/
def toMapping (route : Route) : Json := Json.ofKeyed route.mapping

/-- The route of a prefix's text, without next-hops. -/
def ofPrefixText (s : Text) : Except ExpectationError Route :=
  match Prefix.parse (Text.trim s) with
  | .ok target => .ok (empty target)
  | .error reason => .error (.badPrefix reason)

/-- The next-hops of the entries that are neither the prefix nor the count, in order. -/
def mappedHops : List (Text × Json) → Except ExpectationError (List (Text × NextHop))
  | [] => .ok []
  | (key, value) :: rest =>
    if key = routeKey || key = countKey then mappedHops rest
    else do
      let hop ← NextHop.ofMapping key value
      let hops ← mappedHops rest
      return (key, hop) :: hops

/-- Compares the declared number of next-hops, if there is one, with the listed ones. -/
def checkCount (declared : Option Json) (listed : Nat) : Except ExpectationError Unit :=
  match declared with
  | none => .ok ()
  | some value =>
    match value.scalarText?.bind fun s => Text.toCount? Text.wordMax (Text.trim s) with
    | none => .error .countNotNumber
    | some n => if n = listed then .ok () else .error (.countMismatch n listed)

/-- The route of a mapping form. -/
def ofMapping (value : Json) : Except ExpectationError Route :=
  match value.object? with
  | none => .error .notMapping
  | some fields =>
    match (fields.get? routeKey).bind Json.scalarText? with
    | none => .error .missingRoute
    | some s => do
      let bare ← ofPrefixText s
      let hops ← mappedHops fields.entries
      let route := bare.insertAll hops
      checkCount (fields.get? countKey) route.count
      return route

end Route
end RouteWatch
