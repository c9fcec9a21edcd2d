/-
Settings in a TOML file. A missing setting has its default, and one of
another kind makes the file unusable. An unknown one is ignored, but its
numbers must have values. A section may also be an array of its settings in
order, and then nobody looks at what comes after them.
-/
import RouteWatch.Files
import RouteWatch.Settings.Basic
import RouteWatch.Toml.Reader

namespace RouteWatch

namespace Settings

/-- What a section holds under the name of a setting. -/
abbrev Section := Text → Option Toml

/-- The settings of a section by name, when the names stand in this order in an array. -/
def section? (names : List Text) : Option Toml → Option Section
  | none => some fun _ => none
  | some (.table _ fields) =>
    if Toml.fieldsHaveValue fields then some fun name => valueOf? name fields else none
  | some (.array items) => some fun name => valueOf? name (names.zip items)
  | some (.tables items) => some fun name => valueOf? name (names.zip (items.map (.table .headed)))
  | some (.dateTime _) => some fun _ => none
  | some _ => none

/-- A setting, its default when it is missing, nothing when it is of another kind. -/
def setting (values : Section) (name : String) (kind : Toml → Option α) (default : α) : Option α :=
  match values name.toList with
  | none => some default
  | some value => kind value

/-- A count that is not above a bound. -/
def count? (max : Nat) : Toml → Option Nat
  | .integer (.ofNat n) => if n ≤ max then some n else none
  | _ => none

def text? : Toml → Option Text
  | .string s => some s
  | _ => none

def boolean? : Toml → Option Bool
  | .boolean b => some b
  | _ => none

/-- The settings of polls. -/
def readPoll? (value : Option Toml) : Option PollSettings := do
  let values ← section? ["interval_ms".toList, "max_attempts".toList] value
  let default : PollSettings := {}
  let interval ← setting values "interval_ms" (count? Text.wordMax) default.interval.toNat
  let attempts ← setting values "max_attempts" (count? Text.halfWordMax) default.maxAttempts.toNat
  return ⟨UInt64.ofNat interval, UInt32.ofNat attempts⟩

/-- The settings of the way to devices. -/
def readDevice? (value : Option Toml) : Option DeviceSettings := do
  let values ← section? ["ssh".toList, "ssh_user".toList, "command_timeout_secs".toList,
    "vtysh_path".toList, "db_cli_path".toList] value
  let default : DeviceSettings := {}
  let isRemote ← setting values "ssh" boolean? default.isRemote
  let user ← setting values "ssh_user" (fun value => (text? value).map some) default.user
  let timeout ← setting values "command_timeout_secs" (count? Text.wordMax) default.timeout.toNat
  let managementCli ← setting values "vtysh_path" text? default.managementCli
  let dbClient ← setting values "db_cli_path" text? default.dbClient
  return ⟨isRemote, user, UInt64.ofNat timeout, managementCli, dbClient⟩

def pollSection : Text := "poll".toList

def deviceSection : Text := "exec".toList

/-- The fields of a document that are no sections. -/
def unknownFields (fields : Toml.Fields) : Toml.Fields :=
  fields.filter fun (name, _) => name != pollSection && name != deviceSection

/-- The settings of a document. -/
def ofToml? (fields : Toml.Fields) : Option Settings := do
  let poll ← readPoll? (valueOf? pollSection fields)
  let device ← readDevice? (valueOf? deviceSection fields)
  if Toml.fieldsHaveValue (unknownFields fields) then return ⟨poll, device⟩ else none

/-- Why settings cannot be loaded. -/
inductive LoadError where
  | settings (reason : SettingsError)
  | file (reason : Files.ReadError)
  deriving DecidableEq

/-- The settings of a file, all defaults when it is missing. -/
def load (files : Files) (name : Text) : Except LoadError Settings :=
  match files.read name with
  | .ok text =>
    match (Toml.read? text).bind ofToml? with
    | some settings => .ok settings
    | none => .error (.settings (.unreadable name))
  | .error .missing => .ok {}
  | .error reason => .error (.file reason)

end Settings
end RouteWatch
