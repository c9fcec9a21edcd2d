/-
The ways on which a device runs a command.
-/
import RouteWatch.Text.Basic

namespace RouteWatch

inductive Channel where
  /-- The routing daemon's management shell. -/
  | managementCli
  /-- A plain shell on the device. -/
  | shell
  /-- The database client; commands are its arguments. -/
  | dbClient
  deriving DecidableEq

namespace Channel

def all : List Channel := [managementCli, shell, dbClient]

def name : Channel → Text
  | managementCli => "management-cli".toList
  | shell => "shell".toList
  | dbClient => "db-client".toList

/-- The short names that a user may give instead. -/
def aliases : Channel → List Text
  | managementCli => ["cli".toList, "vtysh".toList]
  | shell => []
  | dbClient => ["db".toList]

/-- The channel with exactly this name. -/
def ofName? (s : Text) : Option Channel := all.find? (·.name == s)

/-- The channel that a user names. -/
def read? (s : Text) : Option Channel :=
  all.find? fun channel => channel.name == s || channel.aliases.contains s

/-- The complaint about a name of no channel. -/
def unknownMessage (s : Text) : Text := "unknown execution channel: ".toList ++ s

end Channel
end RouteWatch
