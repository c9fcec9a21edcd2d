/-
The differences between an expected route and an observed one, in a fixed
order: the prefix, the number of next-hops, then for each expected next-hop
in order that it is missing or which of its attributes differ, then the
next-hops that were not expected. A route that was not found differs in that
alone.
-/
import RouteWatch.Route.Mapping

namespace RouteWatch

inductive Difference where
  | routeAbsent
  | target (expected observed : Text)
  | count (expected observed : Nat)
  | missing (id : Text)
  | unexpected (id : Text)
  | field (id : Text) (name : Field) (expected observed : Text)
  deriving DecidableEq

/-- What was expected and what was observed. -/
def expectedObserved (expected observed : Text) : Text :=
  "expected ".toList ++ expected ++ ", observed ".toList ++ observed

def Difference.message : Difference → Text
  | routeAbsent => "route not found".toList
  | target expected observed => routeKey ++ ": ".toList ++ expectedObserved expected observed
  | count expected observed =>
    countKey ++ ": ".toList ++ expectedObserved (Text.ofNat expected) (Text.ofNat observed)
  | missing id => "missing next-hop ".toList ++ id
  | unexpected id => "unexpected next-hop ".toList ++ id
  | field id name expected observed =>
    id ++ ' ' :: name.key ++ ": ".toList ++
      expectedObserved ('"' :: expected ++ ['"']) ('"' :: observed ++ ['"'])

namespace NextHop

/-- The attributes in which two next-hops of one identifier differ. -/
def differences (id : Text) (expected observed : NextHop) : List Difference :=
  ([.distance, .metric, .protocol].filter fun name : Field =>
    expected.text name ≠ observed.text name).map fun name =>
      .field id name (expected.text name) (observed.text name)

end NextHop

namespace Route

/-- The difference of the prefixes, if there is one. -/
def targetDifference (expected observed : Route) : List Difference :=
  if expected.target = observed.target then []
  else [.target expected.target.print observed.target.print]

/-- The difference of the numbers of next-hops, if there is one. -/
def countDifference (expected observed : Route) : List Difference :=
  if expected.count = observed.count then [] else [.count expected.count observed.count]

/-- What is wrong with the expected next-hops. -/
def hopDifferences (expected observed : Route) : List Difference :=
  expected.hops.flatMap fun hop =>
    match observed.get? hop.1 with
    | some seen => hop.2.differences hop.1 seen
    | none => [.missing hop.1]

/-- The next-hops that were not expected. -/
def unexpectedHops (expected observed : Route) : List Difference :=
  (observed.nextHops.keys.filter fun id => (expected.get? id).isNone).map .unexpected

/-- Every difference of an observation from the expected route. -/
def differences (expected : Route) : (observed : Option Route) → List Difference
  | none => [.routeAbsent]
  | some observed =>
    expected.targetDifference observed ++ expected.countDifference observed ++
      expected.hopDifferences observed ++ expected.unexpectedHops observed

end Route

/-- The differences as one line. -/
def Difference.summary : List Difference → Text
  | [] => "match".toList
  | differences => Text.joinWith "; ".toList (differences.map message)

/-- The route was not found at all. -/
def Difference.routeMissing (differences : List Difference) : Bool :=
  differences.head? == some .routeAbsent

end RouteWatch
