import GridStore.Store.Startup

/-!
# Maintenance

What can be done to a database beside the calls of a store: tables and columns are dropped, single
columns of rows overwritten, and the records of migrations changed. A store has to cope with what
is left.
-/

namespace GridStore

namespace Row

/-- The row with one column overwritten. Fixed columns hold no null. -/
def overwrite (k : Kind) (column : String) (v : ColumnValue) (r : Row) : Except StoreError Row :=
  let cell := Cell.ofColumnValue v
  let fixed (affinity : Affinity) (f : Cell → Row) : Except StoreError Row :=
    if cell = .null then .error (.queryFailed (.notNull k.table column))
    else .ok (f (cell.convert affinity))
  if column = k.layout.networkColumn then fixed .text fun c => { r with network := c }
  else if column = "variantNum" then fixed .numeric fun c => { r with variantNum := c }
  else if some column = k.layout.variantIdColumn then fixed .text fun c => { r with variantId := c }
  else if column = "id" then fixed .text fun c => { r with id := c }
  else match k.schema.position? column with
    | some i =>
      let type := (k.schema.columns[i]?.map (·.columnType)).getD .text
      .ok { r with values := r.values.set i (Cell.store type v) }
    | none => .error (.queryFailed (.noSuchColumn column))

end Row

namespace Tables

/-- Overwrites a column of the rows that match, and says how many there are. -/
def overwrite (ts : Tables) (k : Kind) (p : Row → Bool) (column : String) (v : ColumnValue) :
    Except StoreError (Tables × Nat) := do
  let rows ← ts.existing k
  if ¬ column ∈ k.columns then throw (.queryFailed (.noSuchColumn column))
  for r in rows.filter p do
    let _ ← r.overwrite k column v
  ts.update k p fun r => (r.overwrite k column v).toOption.getD r

/-- Removes a column of a table. -/
def dropColumn (ts : Tables) (k : Kind) (column : String) : Except StoreError Tables := do
  let _ ← ts.existing k
  if ¬ (ts.table? k).any (column ∈ ·.columns) then throw (.queryFailed (.noSuchColumn column))
  return ⟨ts.entries.map fun (j, t) =>
    (j, if j = k then { t with columns := t.columns.filter (· ≠ column) } else t)⟩

end Tables

/-- The table of the records of migrations. -/
def migrationsTable : String := "_sqlx_migrations"

namespace Backend

/-- Changes the records of migrations, which have to be there. -/
def changeRecords (f : List MigrationRecord → List MigrationRecord) (b : Backend) :
    Except StoreError Backend :=
  match b.migrations with
  | some records => .ok { b with migrations := some (f records) }
  | none => .error (.queryFailed (.noSuchTable migrationsTable))

/-- Records migrations with another text than they have. -/
def tamper : Backend → Except StoreError Backend :=
  changeRecords fun records => records.map fun r => { r with unchanged := false }

/-- Records migrations as not finished. -/
def markUnfinished : Backend → Except StoreError Backend :=
  changeRecords fun records => records.map fun r => { r with finished := false }

/-- Forgets that migrations were applied. -/
def forgetMigrations : Backend → Except StoreError Backend :=
  changeRecords fun _ => []

end Backend

namespace Store

/-- Changes the database. -/
def changeBackend (f : Backend → Except StoreError Backend) : Call Unit := fun s =>
  match f s.toBackend with
  | .ok backend => Call.answer () { s with toBackend := backend }
  | .error e => Call.fail e s

/-- Removes the table of a kind. -/
def dropTable (k : Kind) : Call Unit := do
  Call.acquire
  .execute fun ts => do return (← ts.drop k, ())

/-- Removes a column of a kind's table. -/
def dropColumn (k : Kind) (column : String) : Call Unit := do
  Call.acquire
  .execute fun ts => do return (← ts.dropColumn k column, ())

/-- Overwrites a column of the row with an id in a variant of a network. -/
def overwrite (k : Kind) (network : Uuid) (variantNum : Int32) (id column : String)
    (v : ColumnValue) : Call Nat := do
  Call.acquire
  .execute fun ts => ts.overwrite k (·.isAt network variantNum id) column v

end Store

end GridStore
