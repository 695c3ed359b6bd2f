import GridStore.Mapping.Basic
import GridStore.Sql.Catalog
import GridStore.Validation

/-!
# Store errors

Why a call on a store fails. A missing row is no error; `notFound` is for an argument that names
something that has to exist.
-/

namespace GridStore

/-- Why the backend refuses a statement. -/
inductive StatementFailure where
  | noSuchTable (table : String)
  | noSuchColumn (column : String)
  | notNull (table column : String)
deriving DecidableEq, Repr

/-- The wording of the failure. -/
def StatementFailure.message : StatementFailure → String
  | noSuchTable table => s!"no such table: {table}"
  | noSuchColumn column => s!"no such column: {column}"
  | notNull table column => s!"NOT NULL constraint failed: {table}.{column}"

/-- Why a connection cannot be had. -/
inductive ConnectionFailure where
  /-- The pool is closed. -/
  | poolClosed
  /-- The database file cannot be opened. -/
  | cannotOpen
deriving DecidableEq, Repr

/-- The wording of the failure. -/
def ConnectionFailure.message : ConnectionFailure → String
  | poolClosed => "pool closed"
  | cannotOpen => "unable to open database file"

/-- Why a recorded migration stops another run. -/
inductive MigrationFailure where
  /-- The record is of a migration that did not finish. -/
  | unfinished
  /-- The record is of a migration with another text. -/
  | changed
deriving DecidableEq, Repr

/-- The wording of the failure. -/
def MigrationFailure.message : MigrationFailure → String
  | unfinished => "migration 1 is partially applied"
  | changed => "migration 1 was previously applied but has been modified"

/-- Why a call on a store fails. -/
inductive StoreError where
  /-- An argument names something that is not stored. -/
  | notFound (entity id : String)
  /-- A row would share a key with another. -/
  | uniqueViolation (table : String) (columns : List String)
  | connectionFailed (cause : ConnectionFailure)
  | migrationFailed (cause : MigrationFailure)
  /-- The backend refuses a statement of a table when it is prepared. -/
  | schemaMismatch (table : String) (shape : Sql.Shape)
  | queryFailed (cause : StatementFailure)
  /-- No connection became free. -/
  | poolExhausted
  | invalidArgument (cause : ValidationError)
  | mapping (cause : MappingError)
  /-- The table has no statement of the shape. -/
  | noStatement (table : String) (shape : Sql.Shape)
  /-- A column holds what no value of its type is read from. -/
  | undecodable
deriving DecidableEq, Repr

namespace StoreError

/-- The name of the error for programs. -/
def code : StoreError → String
  | notFound .. => "NotFound"
  | uniqueViolation .. => "UniqueViolation"
  | connectionFailed _ => "ConnectionFailed"
  | migrationFailed _ => "MigrationFailed"
  | schemaMismatch .. => "SchemaMismatch"
  | queryFailed _ => "QueryFailed"
  | poolExhausted => "PoolExhausted"
  | invalidArgument cause => "InvalidArgument." ++ cause.code
  | mapping cause => cause.code
  | noStatement .. | undecodable => "Internal"

/-- The wording of the error. -/
def message : StoreError → String
  | notFound entity id => s!"{entity} not found: {id}"
  | uniqueViolation table columns =>
    "Constraint violated: " ++ ", ".intercalate (columns.map fun c => table ++ "." ++ c)
  | connectionFailed cause => s!"Cannot connect to database: {cause.message}"
  | migrationFailed cause => s!"Schema migration failed: {cause.message}"
  | schemaMismatch table shape => s!"Schema mismatch on table {table} ({shape.name})"
  | queryFailed cause => s!"Statement failed: {cause.message}"
  | poolExhausted => "Timed out waiting for a pooled connection"
  | invalidArgument cause => s!"Invalid argument: {cause.message}"
  | mapping cause => s!"Mapping failed: {cause.message}"
  | noStatement table shape =>
    s!"Internal store error: no {shape.name} statement for table {table}"
  | undecodable => "Internal store error: a column holds a value of another type"

/-- Whether an argument of the call is at fault. -/
def isInvalidArgument : StoreError → Bool
  | invalidArgument _ => true
  | _ => false

/-- Whether an argument of the call names something that is not stored. -/
def isNotFound : StoreError → Bool
  | notFound .. => true
  | _ => false

end StoreError

end GridStore
