import GridStore.Seed.Program

/-!
# The command line

Runs the seed program in the environment that it is started in. The settings are read from the
disk; the database is held in memory and ends with the run, so that nothing is written.
-/

namespace GridStore.Seed

/-- The variables of the environment that settings depend on. -/
def variableNames : List String :=
  ["XDG_DATA_HOME", "XDG_CONFIG_HOME", "NETSTORE_DATABASE_PATH", "NETSTORE_MAX_CONNECTIONS",
   "NETSTORE_BATCH_SIZE", "NETSTORE_RUN_MIGRATIONS"]

/-- The environment that the program is started in. -/
def readEnvironment : IO Environment := do
  let values ← variableNames.filterMapM fun name => do
    return (← IO.getEnv name).map fun value => (name, value)
  return .ofVariables ((← IO.getEnv "HOME").filter (· ≠ "")) fun name => values.lookup name

/-- The directory of a path, as far as there is one, and the directories around it. -/
def directoriesAround : Place → List Place
  | [] => []
  | name :: names => [name] :: (directoriesAround names).map (name :: ·)

/-- What of the disk the program looks at: the file of settings, and the directory in which the
database would be. -/
def readDisk (settingsPath : Option String) : IO Disk := do
  let here ← IO.currentDir
  let place := (pathNames here.toString).filter (· ≠ "")
  let empty : Disk :=
    { workingDirectory := place, directories := directoriesAround place, files := [] }
  match settingsPath with
  | none => return empty
  | some path =>
    let file := here / path
    if ← file.isDir then
      return (empty.makeParent? (joinPath path "settings")).getD empty
    else if ← file.pathExists then
      let text ← IO.FS.readFile file
      let disk := (empty.makeParent? path).getD empty
      return (disk.writeText? path text).getD disk
    else return empty

/-- Adds the directory in which the database would be, if it is there. -/
def addDatabaseDirectory (databasePath : String) (disk : Disk) : IO Disk := do
  let here ← IO.currentDir
  match (here / databasePath).parent with
  | none => return disk
  | some parent =>
    if ← parent.isDir then return (disk.makeParent? databasePath).getD disk else return disk

/-- Sixteen bytes of chance as one number. -/
def chance : IO Nat := do
  return (← IO.getRandomBytes 16).toList.foldl (fun n b => 256 * n + b.toNat) 0

/-- Runs the program and prints what it did. -/
def start (arguments : List String) : IO UInt32 := do
  let env ← readEnvironment
  let options := (Options.standard.read? arguments).getD .standard
  let disk ← readDisk (options.settingsPath <|> env.standardSettingsPath)
  let settings := (Settings.load env disk options.settingsPath).2.toOption
  let databasePath := options.databasePath <|> settings.map (·.database.path)
  let disk ← databasePath.elim (pure disk) (addDatabaseDirectory · disk)
  let occasion : Occasion := ⟨.ofChance (← chance), .epoch⟩
  let before ← IO.monoMsNow
  let transcript ← IO.lazyPure fun _ => run env occasion disk arguments
  let after ← IO.monoMsNow
  transcript.lines.forM fun line => IO.println (line.render s!"{after - before}ms")
  return if transcript.succeeded then 0 else 1

end GridStore.Seed

def main (arguments : List String) : IO UInt32 :=
  GridStore.Seed.start arguments
