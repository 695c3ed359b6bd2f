import GridStore.Disk
import GridStore.Log
import GridStore.Settings.Reading
import GridStore.Text.Shown

/-!
# Loading and saving settings

Settings come from a file, where it exists, and from variables of the environment, which go before
it. A variable whose value cannot be read is passed over. The settings that result are checked.
Unless another file is named, they are kept in the user's directory for configuration.
-/

namespace GridStore

/-- Where a user keeps data and configuration of this store. -/
structure UserDirectories where
  data : String
  configuration : String
deriving DecidableEq, Repr

/-- What of its environment a program looks at. -/
structure Environment where
  /-- Nothing for a user without a home. -/
  directories : Option UserDirectories
  databasePath : Option String
  maxConnections : Option String
  batchSize : Option String
  runMigrations : Option String
deriving DecidableEq, Repr

namespace UserDirectories

/-- The name of the store's directory inside one that it shares with other programs. -/
def ownName : String := "netstore"

/-- The directory that a variable names by a path from the root, or one inside the home. -/
def shared (named : Option String) (home inHome : String) : String :=
  match named with
  | some path => if path.toList.head? = some '/' then path else joinPath home inHome
  | none => joinPath home inHome

/-- The directories of a user with a home. -/
def ofVariables (home : String) (lookup : String → Option String) : UserDirectories :=
  { data := joinPath (shared (lookup "XDG_DATA_HOME") home ".local/share") ownName
    configuration := joinPath (shared (lookup "XDG_CONFIG_HOME") home ".config") ownName }

end UserDirectories

namespace Environment

/-- The environment that variables make, with the user's home. -/
def ofVariables (home : Option String) (lookup : String → Option String) : Environment :=
  { directories := home.map (UserDirectories.ofVariables · lookup)
    databasePath := lookup "NETSTORE_DATABASE_PATH"
    maxConnections := lookup "NETSTORE_MAX_CONNECTIONS"
    batchSize := lookup "NETSTORE_BATCH_SIZE"
    runMigrations := lookup "NETSTORE_RUN_MIGRATIONS" }

/-- The file of the database unless another is named. -/
def standardDatabasePath (env : Environment) : String :=
  match env.directories with
  | some directories => joinPath directories.data "netstore.db"
  | none => "netstore.db"

/-- The file of settings unless another is named. -/
def standardSettingsPath (env : Environment) : Option String :=
  env.directories.map fun directories => joinPath directories.configuration "netstore.toml"

end Environment

/-- What is reported while settings are loaded and saved. -/
inductive SettingsEvent where
  | loading (path : String)
  | fileMissing (path : String)
  | pathOverridden (path : String)
  /-- The value of a variable cannot be read. -/
  | ignored (name value : String)
  | saved (path : String)
deriving DecidableEq, Repr

/-- The log line of an event. -/
def SettingsEvent.line : SettingsEvent → LogLine
  | loading path => ⟨.info, "Loading store config from file", [("path", shown path)]⟩
  | fileMissing path => ⟨.debug, "Config file not found, using defaults", [("path", shown path)]⟩
  | pathOverridden path =>
    ⟨.debug, "Overriding database path from environment", [("path", path)]⟩
  | ignored name value => ⟨.warn, "Ignoring invalid " ++ name, [("value", value)]⟩
  | saved path => ⟨.info, "Store config saved", [("path", shown path)]⟩

/-- Reads a number below a bound: digits, perhaps after a plus sign. -/
def readNatBelow? (bound : Nat) (s : String) : Option Nat :=
  let digits := match s.toList with
    | '+' :: cs => cs
    | cs => cs
  if digits ≠ [] ∧ digits.all Char.isDigit ∧ digitsValue digits < bound then
    some (digitsValue digits)
  else none

/-- Reads a truth value, in letters of either case. -/
def readSwitch? (s : String) : Option Bool :=
  let word := String.ofList (s.toList.map Char.toLower)
  if word ∈ ["1", "true", "yes"] then some true
  else if word ∈ ["0", "false", "no"] then some false
  else none

namespace Settings

/-- Settings with what was reported while they were found. -/
abbrev Reported := Settings × List SettingsEvent

/-- Sets what a variable gives, or reports that it cannot be read. -/
def overrideBy {α : Type} (name : String) (value : Option String)
    (read : String → Option α) (set : α → Settings → Settings) (r : Reported) : Reported :=
  match value with
  | none => r
  | some value =>
    match read value with
    | some a => (set a r.1, r.2)
    | none => (r.1, r.2 ++ [.ignored name value])

/-- The settings after what the environment says. -/
def override (env : Environment) (s : Settings) : Reported :=
  let named : Reported := match env.databasePath with
    | some path => ({ s with database.path := path }, [.pathOverridden path])
    | none => (s, [])
  named
    |> overrideBy "NETSTORE_MAX_CONNECTIONS" env.maxConnections (readNatBelow? connectionsBound)
      (fun n s => { s with database.maxConnections := n })
    |> overrideBy "NETSTORE_BATCH_SIZE" env.batchSize (readNatBelow? sizeBound)
      (fun n s => { s with writes.batchSize := n })
    |> overrideBy "NETSTORE_RUN_MIGRATIONS" env.runMigrations readSwitch?
      (fun b s => { s with database.runMigrations := b })

/-- The settings before what the environment says. -/
def ofFile (env : Environment) (disk : Disk) (path : Option String) :
    List SettingsEvent × Except SettingsError Settings :=
  let standard := Settings.standard env.standardDatabasePath
  match path with
  | none => ([], .ok standard)
  | some path =>
    if disk.pathExists path then
      ([.loading path],
        match disk.readText? path with
        | none => .error .file
        | some text => (read? standard text).elim (.error .malformed) .ok)
    else ([.fileMissing path], .ok standard)

/-- Loads settings, from the user's file unless another is named. -/
def load (env : Environment) (disk : Disk) (path : Option String) :
    List SettingsEvent × Except SettingsError Settings :=
  match ofFile env disk (path <|> env.standardSettingsPath) with
  | (events, .error e) => (events, .error e)
  | (events, .ok s) =>
    let (s, overrides) := s.override env
    (events ++ overrides, s.validate.map fun _ => s)

/-- Saves settings, to the user's file unless another is named. The directories on the way to the
file are made. -/
def save (env : Environment) (disk : Disk) (path : Option String) (s : Settings) :
    List SettingsEvent × Except SettingsError Disk :=
  match path <|> env.standardSettingsPath with
  | none => ([], .error (.invalid .noPath))
  | some path =>
    match disk.makeParent? path with
    | none => ([], .error .file)
    | some disk =>
      match s.document? with
      | none => ([], .error .unwritable)
      | some document =>
        match disk.writeText? path document with
        | none => ([], .error .file)
        | some disk => ([.saved path], .ok disk)

end Settings

end GridStore
