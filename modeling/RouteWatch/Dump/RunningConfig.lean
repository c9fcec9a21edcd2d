/-
The running configuration. Nothing is parsed here: for each expected
next-hop the static route line is written and looked for among the lines of
the VRF. The daemon does not print the default distance, so distance 1
matches the bare line and the one that spells it out.

A line `vrf NAME` without indent opens a VRF; `exit-vrf` and a line of one
exclamation mark close it.
-/
import RouteWatch.Dump.Query

namespace RouteWatch.RunningConfig

/-- The distance of a line that names none. -/
def defaultDistance : Text := ['1']

/-- The configuration line of a static next-hop. -/
def staticLine (target : Prefix) (id : Text) (distance : Option Text) : Text :=
  let afi := match target.family with
    | .v4 => "ip".toList
    | .v6 => "ipv6".toList
  let line := afi ++ " route ".toList ++ target.cidr ++ ' ' :: id
  match distance.filter (· ≠ defaultDistance) with
  | some distance => line ++ ' ' :: distance
  | none => line

/-- Every spelling of the line. -/
def staticLines (target : Prefix) (id : Text) (distance : Option Text) : List Text :=
  let line := staticLine target id distance
  if distance = some defaultDistance then [line, line ++ ' ' :: defaultDistance] else [line]

/-- What a line does to the VRF that is open. -/
inductive Boundary where
  | opens (vrf : Text)
  | closes

/-- The boundary that a line is. -/
def boundary? (line : Text) : Option Boundary :=
  match Text.after? "vrf ".toList line with
  | some name => some (.opens (Text.trim name))
  | none => if Text.trim line = "exit-vrf".toList || line = ['!'] then some .closes else none

/-- The lines of a VRF, trimmed, while `current` is open. -/
def vrfLinesFrom (vrf current : Option Text) : List Text → List Text
  | [] => []
  | line :: rest =>
    match boundary? line with
    | some (.opens name) => vrfLinesFrom vrf (some name) rest
    | some .closes => vrfLinesFrom vrf none rest
    | none =>
      if current = vrf then Text.trim line :: vrfLinesFrom vrf current rest
      else vrfLinesFrom vrf current rest

/-- The lines of a VRF, trimmed. -/
def vrfLines (lines : List Text) (vrf : Option Text) : List Text := vrfLinesFrom vrf none lines

/-- The VRF has this line. -/
def containsLine (lines : List Text) (vrf : Option Text) (wanted : Text) : Bool :=
  (vrfLines lines vrf).contains wanted

/-- The next-hop is configured at its distance. -/
def isConfigured (scope : List Text) (target : Prefix) (hop : Text × NextHop) : Bool :=
  (staticLines target hop.1 hop.2.distance).any scope.contains

/-- The expected route with the next-hops that are configured, if there are any. -/
def extract (lines : List Text) (query : Query) : Option Route :=
  let scope := vrfLines lines query.vrf
  match query.expected.hops.filter (isConfigured scope query.target) with
  | [] => none
  | hops => some ((Route.empty query.target).insertAll hops)

end RouteWatch.RunningConfig
