import GridStore.Seed.Filling
import GridStore.Settings.Loading

/-!
# The seed program

Opens the store that its settings and its arguments name, fills it with the sample and prints what
it did. It stops with an exit code of one at the first thing that fails.
-/

namespace GridStore.Seed

/-- What the arguments ask for. -/
structure Options where
  /-- How many substations to make. At least one is made. -/
  count : Nat
  databasePath : Option String
  settingsPath : Option String
deriving DecidableEq, Repr

namespace Options

/-- How many substations are made unless something else is asked for. -/
def standardCount : Nat := 20

/-- What is asked for without arguments. -/
def standard : Options :=
  { count := standardCount, databasePath := none, settingsPath := none }

/-- The options that arguments give, or nothing where they ask for help. The last of several
options of a kind counts, and arguments that are no options are passed over. -/
def read? (o : Options) : List String → Option Options
  | "--count" :: n :: rest | "-c" :: n :: rest =>
    read? { o with count := (readNatBelow? sizeBound n).getD standardCount } rest
  | "--db" :: path :: rest | "-d" :: path :: rest => read? { o with databasePath := some path } rest
  | "--config" :: path :: rest => read? { o with settingsPath := some path } rest
  | "--help" :: _ | "-h" :: _ => none
  | _ :: rest => read? o rest
  | [] => some o

end Options

/-- The lines on how to use the program. -/
def usage : List String :=
  ["Network Store Seed Data Generator",
   "",
   "Usage: seed [OPTIONS]",
   "",
   "Options:",
   "  -c, --count <N>    Number of substations to generate (default: 20)",
   "  -d, --db <PATH>    Database file path (overrides the config)",
   "      --config <PATH> Config file (default: platform config dir)",
   "  -h, --help         Show this help message"]

/-- The lines before the store is opened. -/
def banner (o : OpenOptions) (count : Nat) : List String :=
  ["Network Store Seed Data Generator",
   "=================================",
   "Database:    " ++ o.path,
   s!"Batch size:  {o.batchSize}",
   s!"Substations: {count}",
   ""]

/-- A line that is printed. -/
inductive PrintedLine where
  | text (s : String)
  /-- The network is stored. The line says how long that took. -/
  | created (uuid : Uuid)
deriving DecidableEq, Repr

/-- The text of a line, given how long storing the network took. -/
def PrintedLine.render (elapsed : String) : PrintedLine → String
  | text s => s
  | created uuid => s!"✓ Created network {uuid.text} in {elapsed}"

/-- What a run takes from outside. -/
structure Occasion where
  /-- A uuid that no network has. -/
  uuid : Uuid
  now : Timestamp

/-- What a run leaves. -/
structure Transcript where
  lines : List PrintedLine
  succeeded : Bool
  disk : Disk

/-- Calls that each give lines, in order up to the first that fails: the lines, whether none
failed, and the store. -/
def printing :
    List (Call (List PrintedLine)) → Store → List PrintedLine × Bool × Store
  | [], s => ([], true, s)
  | c :: cs, s =>
    let o := c s
    match o.result with
    | .error _ => ([], false, o.store)
    | .ok lines =>
      let (rest, succeeded, s) := printing cs o.store
      (lines ++ rest, succeeded, s)

/-- What is done once the store is open. -/
def stages (count : Nat) (occasion : Occasion) : List (Call (List PrintedLine)) :=
  [do
    Sample.create count occasion.uuid occasion.now
    return [.text "", .created occasion.uuid],
   do
    let copied ← Sample.cloneToStudy occasion.uuid
    return [.text s!"✓ Cloned variant 0 into '{Sample.study.id}' ({copied} rows)", .text ""],
   do
    let lines ← Sample.report occasion.uuid
    return lines.map .text ++ [.text "", .text "✓ Seed complete!"]]

/-- Opens a store and fills it. -/
def fill (options : OpenOptions) (count : Nat) (occasion : Occasion) (disk : Disk) : Transcript :=
  let database := disk.database? options.path
  let opened := Store.openOn options database
  let kept (s : Store) : Disk :=
    if database.isSome then disk.keepDatabase options.path s.toBackend else disk
  match opened.result with
  | .error _ =>
    { lines := (banner options count).map .text, succeeded := false, disk := kept opened.store }
  | .ok () =>
    let (lines, succeeded, s) := printing (stages count occasion) opened.store
    { lines := (banner options count ++
        ["✓ Connected to database", "✓ Migrations applied"]).map .text ++ lines
      succeeded
      disk := kept s }

/-- Runs the program with some arguments. -/
def run (env : Environment) (occasion : Occasion) (disk : Disk) (arguments : List String) :
    Transcript :=
  match Options.standard.read? arguments with
  | none => { lines := usage.map .text, succeeded := true, disk }
  | some o =>
    match (Settings.load env disk o.settingsPath).2 with
    | .error _ => { lines := [], succeeded := false, disk }
    | .ok settings =>
      let options := settings.openOptions
      fill { options with path := o.databasePath.getD options.path } (max o.count 1) occasion disk

end GridStore.Seed
