/-
The commands that produce the dumps. Names given by a caller are quoted here
for the shell and for the database client; commands for the management shell
are quoted as a whole when they are run.
-/
import RouteWatch.Net.Prefix
import RouteWatch.Shell.Quote

namespace RouteWatch.Command

/-- The word for a family in management commands. -/
def familyWord : Family → Text
  | .v4 => "ip".toList
  | .v6 => "ipv6".toList

/-- The clause that names a VRF. -/
def vrfClause : Option Text → Text
  | none => []
  | some name => " vrf ".toList ++ name

def showRib (family : Family) (vrf : Option Text) : Text :=
  "show ".toList ++ familyWord family ++ " route".toList ++ vrfClause vrf

def showFib (family : Family) (vrf : Option Text) : Text :=
  "show ".toList ++ familyWord family ++ " fib".toList ++ vrfClause vrf

def showRunningConfig : Text := "show running-config".toList

def showKernel (family : Family) (vrf : Option Text) : Text :=
  let option := match family with
    | .v4 => "-4".toList
    | .v6 => "-6".toList
  "/sbin/ip ".toList ++ option ++ " route show".toList ++ vrfClause (vrf.map Shell.quote)

/-- The key of a route in the application database. -/
def databaseKey (target : Prefix) (vrf : Option Text) : Text :=
  "ROUTE_TABLE:".toList ++
    (match vrf with
      | some name => name ++ [':']
      | none => []) ++
    target.cidr

/-- Arguments of the database client. -/
def readDatabase (target : Prefix) (vrf : Option Text) : Text :=
  "-n 0 HGETALL ".toList ++ Shell.quote (databaseKey target vrf)

end RouteWatch.Command
