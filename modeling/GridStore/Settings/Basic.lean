import GridStore.Store.Startup
import GridStore.Toml.Quoted

/-!
# Settings

How a store is opened and written to. Settings have two sections, on the database and on writes,
and are written as a TOML document.
-/

namespace GridStore

/-- The section on the database. -/
structure DatabaseSettings where
  path : String
  maxConnections : Nat
  minConnections : Nat
  connectTimeoutSecs : Nat
  idleTimeoutSecs : Nat
  runMigrations : Bool
deriving DecidableEq, Repr, Inhabited

/-- The section on writes. -/
structure WriteSettings where
  batchSize : Nat
deriving DecidableEq, Repr, Inhabited

/-- How a store is opened and written to. -/
structure Settings where
  database : DatabaseSettings
  writes : WriteSettings
deriving DecidableEq, Repr, Inhabited

/-- Why settings are refused. -/
inductive InvalidSettings where
  | emptyBatches
  | noConnections
  | minExceedsMax (min max : Nat)
  /-- There is no place to save settings at. -/
  | noPath
deriving DecidableEq, Repr

/-- The wording of the refusal. -/
def InvalidSettings.message : InvalidSettings → String
  | emptyBatches => "batch_size must be greater than 0"
  | noConnections => "max_connections must be greater than 0"
  | minExceedsMax min max => s!"min_connections ({min}) exceeds max_connections ({max})"
  | noPath => "No config path available"

/-- Why settings cannot be loaded or saved. -/
inductive SettingsError where
  /-- The file cannot be read or written. -/
  | file
  /-- The file is no document of settings. -/
  | malformed
  /-- A number is too large for a document. -/
  | unwritable
  | invalid (cause : InvalidSettings)
deriving DecidableEq, Repr

namespace SettingsError

/-- The name of the error for programs. -/
def code : SettingsError → String
  | file => "Config.Io"
  | malformed => "Config.Parse"
  | unwritable => "Config.Serialize"
  | invalid _ => "Config.Invalid"

/-- The wording of the error, where it says more than its name. -/
def message? : SettingsError → Option String
  | invalid cause => some s!"Invalid configuration: {cause.message}"
  | _ => none

end SettingsError

namespace DatabaseSettings

/-- The settings that hold unless others are given, with the path of the database. -/
def standard (path : String) : DatabaseSettings :=
  { path
    maxConnections := 5
    minConnections := 1
    connectTimeoutSecs := 30
    idleTimeoutSecs := 600
    runMigrations := true }

end DatabaseSettings

namespace Settings

/-- The settings that hold unless others are given, with the path of the database. -/
def standard (path : String) : Settings :=
  { database := .standard path
    writes := ⟨defaultBatchSize⟩ }

/-- Checks that batches and connections are possible. -/
def validate (s : Settings) : Except SettingsError Unit :=
  if s.writes.batchSize = 0 then .error (.invalid .emptyBatches)
  else if s.database.maxConnections = 0 then .error (.invalid .noConnections)
  else if s.database.maxConnections < s.database.minConnections then
    .error (.invalid (.minExceedsMax s.database.minConnections s.database.maxConnections))
  else .ok ()

/-- How the store is opened. -/
def openOptions (s : Settings) : OpenOptions :=
  { path := s.database.path
    maxConnections := s.database.maxConnections
    runMigrations := s.database.runMigrations
    batchSize := s.writes.batchSize }

/-- The settings as JSON, with whether the database is kept in memory. -/
def toJson (s : Settings) : Json :=
  .ofMembers [
    ("path", .str s.database.path),
    ("inMemory", .bool s.openOptions.isInMemory),
    ("maxConnections", .int s.database.maxConnections),
    ("minConnections", .int s.database.minConnections),
    ("connectTimeoutSecs", .int s.database.connectTimeoutSecs),
    ("idleTimeoutSecs", .int s.database.idleTimeoutSecs),
    ("runMigrations", .bool s.database.runMigrations),
    ("batchSize", .int s.writes.batchSize)]

/-- The lines of the document. -/
def lines (s : Settings) : List String :=
  let d := s.database
  ["[database]",
   "path = " ++ Toml.quote d.path,
   s!"max_connections = {d.maxConnections}",
   s!"min_connections = {d.minConnections}",
   s!"connect_timeout_secs = {d.connectTimeoutSecs}",
   s!"idle_timeout_secs = {d.idleTimeoutSecs}",
   s!"run_migrations = {d.runMigrations}",
   "",
   "[writes]",
   s!"batch_size = {s.writes.batchSize}"]

/-- The document, unless a number is too large for one. -/
def document? (s : Settings) : Option String :=
  let numbers := [s.database.maxConnections, s.database.minConnections,
    s.database.connectTimeoutSecs, s.database.idleTimeoutSecs, s.writes.batchSize]
  if numbers.all (· < 0x8000000000000000) then
    some (String.join (s.lines.map (· ++ "\n")))
  else none

end Settings

end GridStore
