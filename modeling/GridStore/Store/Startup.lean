import GridStore.Store.Call

/-!
# Opening a store

Opening connects to a database, applies the migration that creates the tables unless it is
recorded as applied, and prepares every statement of every table. The backend refuses a statement
on a missing table and one that gives a new row a missing column, so a database whose tables are
not as the mappings say is found here and not at the first call.
-/

namespace GridStore

/-- How many migrations there are. -/
def migrationCount : Nat := 1

namespace Backend

/-- Applies the migration unless it is recorded. Tables that exist are left as they are. -/
def migrate (b : Backend) : Except StoreError Backend :=
  match b.migrations.getD [] with
  | [] =>
    .ok { tables := Kind.all.foldl Tables.create b.tables, migrations := some [⟨true, true⟩] }
  | records =>
    if records.any (!·.finished) then .error (.migrationFailed .unfinished)
    else if records.any (!·.unchanged) then .error (.migrationFailed .changed)
    else .ok b

/-- How many migrations there are and how many of them are recorded as finished. -/
def migrationStatus (b : Backend) : Nat × Nat :=
  (migrationCount, (b.migrations.getD []).countP (·.finished))

/-- Whether the backend takes a statement on the table of a kind. -/
def accepts (b : Backend) (k : Kind) (s : Sql.Statement) : Bool :=
  (b.tables.table? k).any fun t => s.newRowColumns.all (· ∈ t.columns)

end Backend

/-- The statements of every table, in the order in which they are prepared. -/
def preparedStatements : List (Kind × Sql.Shape × Sql.Statement) :=
  Kind.all.flatMap fun k => (Sql.statements k.schema).map (k, ·)

/-- How many rows a batch holds at most, unless something else is asked for. -/
def defaultBatchSize : Nat := 1000

/-- How a store is opened. -/
structure OpenOptions where
  path : String
  maxConnections : Nat
  runMigrations : Bool
  batchSize : Nat
deriving DecidableEq, Repr, Inhabited

/-- The path of a database that is kept in memory. -/
def memoryPath : String := ":memory:"

/-- Whether the database is kept in memory. -/
def OpenOptions.isInMemory (o : OpenOptions) : Bool :=
  o.path = memoryPath

namespace Store

/-- Brings the schema up to date. -/
def migrate : Call Unit := fun s =>
  match s.toBackend.migrate with
  | .error e => Call.fail e s
  | .ok backend => Call.emit (.schemaUpToDate migrationCount) { s with toBackend := backend }

/-- Prepares a statement, if the backend takes it. -/
def prepareStatement (takes : Backend → Kind → Sql.Statement → Bool) :
    Kind × Sql.Shape × Sql.Statement → Call Unit
  | (k, shape, statement) => fun s =>
    if takes s.toBackend k statement then Call.emit (.prepared k.table shape) s
    else Call.fail (.schemaMismatch k.table shape) s

/-- Prepares every statement on a backend that takes some, and says how many there are. -/
def prepareOn (takes : Backend → Kind → Sql.Statement → Bool) : Call Nat := do
  Call.acquire
  preparedStatements.forM (prepareStatement takes)
  .emit (.statementsBuilt Kind.all.length preparedStatements.length)
  return preparedStatements.length

/-- Prepares every statement and says how many there are. -/
def prepare : Call Nat :=
  prepareOn Backend.accepts

/-- What opening does once there are connections. -/
def start (o : OpenOptions) : Call Unit := do
  .emit (.poolReady o.maxConnections)
  if o.runMigrations then
    migrate
  let _ ← prepare

/-- Opens a store on a database, which is missing where its file cannot be opened. -/
def openOn (o : OpenOptions) (database : Option Backend) : Outcome Unit :=
  let opened : Store :=
    { toBackend := database.getD .empty
      pool := { isOpen := true, capacity := o.maxConnections, held := 0 }
      batchSize := o.batchSize }
  let call : Call Unit := do
    .require (Validation.batchSize o.batchSize)
    .emit (.opening o.path o.batchSize)
    if database.isSome then start o else .fail (.connectionFailed .cannotOpen)
  call opened

/-- Closes every connection. Calls that need one fail from then on. -/
def close : Call Unit := do
  .emit .closing
  .modify fun s => { s with pool := { s.pool with isOpen := false } }

/-- Whether a connection can be had. -/
def isHealthy : Call Bool :=
  .view fun s => (Call.acquire s).result.isOk

/-- How many migrations there are and how many of them are applied. -/
def migrationStatus : Call (Nat × Nat) := do
  Call.acquire
  .view (·.toBackend.migrationStatus)

/-- Holds a connection outside calls. -/
def hold : Call Unit := do
  Call.acquire
  .modify fun s => { s with pool := { s.pool with held := s.pool.held + 1 } }

/-- Gives a held connection back. -/
def release : Call Unit :=
  .modify fun s => { s with pool := { s.pool with held := s.pool.held - 1 } }

end Store

end GridStore
