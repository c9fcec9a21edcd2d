/-
What one extraction looks for: the route that is expected, the VRF it lives
in, and a protocol to which the next-hops are narrowed.
-/
import RouteWatch.Route.Basic

namespace RouteWatch

structure Query where
  expected : Route
  /-- Only next-hops of this protocol count. Kernel dumps name no protocol, and their next-hops
  are taken to be of this one. -/
  protocol : Option Protocol := none
  /-- The default VRF has no name. -/
  vrf : Option Text := none

/-- The prefix that is looked for. -/
def Query.target (query : Query) : Prefix := query.expected.target

end RouteWatch
