import GridStore.Store.Event
import GridStore.Store.Table

/-!
# Calls

A call on a store reads and writes its tables, reports events and gives an answer or an error.
What it wrote before an error stays written. Connections come from a pool; a call that needs one
fails when the pool is closed or all of them are held.
-/

namespace GridStore

/-- The record of an applied migration. -/
structure MigrationRecord where
  /-- Whether it is recorded with the text that the migration has. -/
  unchanged : Bool
  /-- Whether it is recorded as finished. -/
  finished : Bool
deriving DecidableEq, Repr, Inhabited

/-- What a database holds. -/
structure Backend where
  tables : Tables
  /-- The records of migrations; none before the first run of them. -/
  migrations : Option (List MigrationRecord)
deriving DecidableEq, Repr, Inhabited

/-- An empty database. -/
def Backend.empty : Backend :=
  { tables := .empty, migrations := none }

/-- The connections of a store. -/
structure Pool where
  isOpen : Bool
  /-- How many connections there are. -/
  capacity : Nat
  /-- How many of them are held outside calls. -/
  held : Nat
deriving DecidableEq, Repr, Inhabited

/-- A store. -/
structure Store extends Backend where
  pool : Pool
  /-- How many rows a batch holds at most. -/
  batchSize : Nat
deriving DecidableEq, Repr, Inhabited

/-- What a call leaves: the store, what it reported in order, and its answer. -/
structure Outcome (α : Type) where
  store : Store
  events : List Event
  result : Except StoreError α

/-- A call. -/
def Call (α : Type) : Type :=
  Store → Outcome α

namespace Call

variable {α β : Type}

/-- Answers and does nothing. -/
def answer (a : α) : Call α := fun s =>
  { store := s, events := [], result := .ok a }

/-- Fails and does nothing. -/
def fail (e : StoreError) : Call α := fun s =>
  { store := s, events := [], result := .error e }

/-- What is done after a call, unless it failed. -/
def andThen (c : Call α) (f : α → Call β) : Call β := fun s =>
  let first := c s
  match first.result with
  | .error e => { store := first.store, events := first.events, result := .error e }
  | .ok a =>
    let second := f a first.store
    { store := second.store, events := first.events ++ second.events, result := second.result }

instance : Monad Call where
  pure := answer
  bind := andThen

/-- A result found without the store. -/
def ofExcept : Except StoreError α → Call α
  | .ok a => answer a
  | .error e => fail e

instance : MonadLift (Except StoreError) Call := ⟨ofExcept⟩

/-- A rule on the arguments. -/
def require : Except ValidationError Unit → Call Unit
  | .ok () => answer ()
  | .error e => fail (.invalidArgument e)

/-- Reports an event. -/
def emit (e : Event) : Call Unit := fun s =>
  { store := s, events := [e], result := .ok () }

/-- What the store shows. -/
def view (f : Store → α) : Call α := fun s =>
  answer (f s) s

/-- Changes the store. -/
def modify (f : Store → Store) : Call Unit := fun s =>
  answer () (f s)

/-- Takes a connection for the rest of the call. -/
def acquire : Call Unit := fun s =>
  if !s.pool.isOpen then fail (.connectionFailed .poolClosed) s
  else if s.pool.capacity ≤ s.pool.held then fail .poolExhausted s
  else answer () s

/-- Runs a statement that reads. -/
def query (f : Tables → Except StoreError α) : Call α := fun s =>
  ofExcept (f s.tables) s

/-- Runs a statement that writes. -/
def execute (f : Tables → Except StoreError (Tables × α)) : Call α := fun s =>
  match f s.tables with
  | .ok (tables, a) => answer a { s with tables }
  | .error e => fail e s

/-- The statement of a shape that the store prepared for a table. -/
def statement (k : Kind) (shape : Sql.Shape) : Call Sql.Statement :=
  match (Sql.statements k.schema).lookup shape with
  | some s => answer s
  | none => fail (.noStatement k.table shape)

end Call

/-- Consecutive batches of a size, the last as long as what is left; batches are never empty. -/
def batches {α : Type} (size : Nat) : List α → List (List α)
  | [] => []
  | a :: as => (a :: as.take (size - 1)) :: batches size (as.drop (size - 1))
termination_by as => as.length
decreasing_by
  simp only [List.length_drop, List.length_cons]
  omega

end GridStore
