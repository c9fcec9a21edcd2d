/-
Writing a running configuration with one static route line per next-hop of
the given routes, inside a VRF when one is named.
-/
import RouteWatch.Dump.RunningConfig

namespace RouteWatch.RunningConfig

/-- The lines before the routes. -/
def preamble : List Text :=
  ["Building configuration...".toList, [], "Current configuration:".toList, ['!'],
    "frr version 8.5".toList, "hostname sonic".toList, ['!']]

/-- The static route lines of some routes. -/
def routeLines (routes : List Route) : List Text :=
  routes.flatMap fun route => route.hops.map fun hop => staticLine route.target hop.1 hop.2.distance

/-- The lines of the configuration. -/
def printLines (routes : List Route) (vrf : Option Text) : List Text :=
  preamble ++
    (match vrf with
      | some name =>
        ("vrf ".toList ++ name) :: (routeLines routes).map (' ' :: ·) ++ ["exit-vrf".toList]
      | none => routeLines routes) ++
    [['!'], "end".toList]

/-- The configuration of some routes. -/
def print (routes : List Route) (vrf : Option Text) : Text :=
  Text.joinWith ['\n'] (printLines routes vrf)

end RouteWatch.RunningConfig
