import GridStore.Column.Basic
import GridStore.Layout

/-!
# Table schemas

The mapped columns of a table, without the attributes that they hold: their names and shapes in
order, which of them name the containers of an equipment, and the one that an update matches
instead of assigning it.
-/

namespace GridStore

/-- A mapped column. -/
structure ColumnInfo where
  name : String
  columnType : ColumnType
deriving DecidableEq, Repr

/-- The mapped columns of a kind's table. -/
structure TableSchema where
  kind : Kind
  columns : List ColumnInfo
  /-- The columns that name a container. -/
  containers : List String
  /-- The column that an update matches. -/
  updateKey : Option String
deriving DecidableEq, Repr

namespace TableSchema

/-- The table. -/
def table (s : TableSchema) : String :=
  s.kind.table

/-- The fixed columns of the table. -/
def layout (s : TableSchema) : TableLayout :=
  s.kind.layout

/-- The names of the mapped columns. -/
def columnNames (s : TableSchema) : List String :=
  s.columns.map (·.name)

/-- The columns that an update assigns. -/
def updateColumns (s : TableSchema) : List String :=
  s.columnNames.filter fun name => some name ≠ s.updateKey

/-- Where a column stands among the mapped ones. -/
def position? (s : TableSchema) (name : String) : Option Nat :=
  s.columns.findIdx? (·.name = name)

/-- Whether an equipment of the kind can be looked up by its container. -/
def hasContainer (s : TableSchema) : Bool :=
  !s.containers.isEmpty

/-- What is wrong with a declaration of mapped columns. -/
inductive Defect where
  | mappedTwice (column : String)
  | keyColumn (column : String)
  | unmappedContainer
  | unmappedUpdateKey
deriving DecidableEq, Repr

/-- The wording of a defect in the declaration of a table. -/
def Defect.message (table : String) : Defect → String
  | mappedTwice column => s!"{table}: column {column} mapped twice"
  | keyColumn column => s!"{table}: column {column} collides with a key column"
  | unmappedContainer => s!"{table}: unmapped container column"
  | unmappedUpdateKey => s!"{table}: unmapped update key"

/-- The first column that repeats one before it or takes the name of a fixed column. -/
def columnDefect? (fixed : List String) (seen : List String) : List String → Option Defect
  | [] => none
  | name :: rest =>
    if name ∈ seen then some (.mappedTwice name)
    else if name ∈ fixed then some (.keyColumn name)
    else columnDefect? fixed (seen ++ [name]) rest

/-- The first defect of a declaration: of its columns in order, then of its containers, then of
its update key. -/
def defect? (s : TableSchema) : Option Defect :=
  match columnDefect? s.layout.fixedColumns [] s.columnNames with
  | some defect => some defect
  | none =>
    if ¬ s.containers.all (· ∈ s.columnNames) then some .unmappedContainer
    else if ¬ s.updateKey.all (· ∈ s.columnNames) then some .unmappedUpdateKey
    else none

/-! ## Description -/

/-- The name of a column's shape in a description. -/
def describeType : ColumnType → String
  | .boolean => "Boolean"
  | .integer => "Integer"
  | .real => "Real"
  | .text => "Text"
  | .list => "List"
  | .json => "Json"

/-- The name of a kind in a description: its table's, with a capital. -/
def describeKind (k : Kind) : String :=
  k.table.capitalize

/-- A text between quotes. -/
def describeText (s : String) : String :=
  "\"" ++ s ++ "\""

/-- A one-line description of the schema. -/
def describe (s : TableSchema) : String :=
  let column (c : ColumnInfo) : String :=
    "ColumnInfo \x7b name: " ++ describeText c.name ++
      ", column_type: " ++ describeType c.columnType ++ " \x7d"
  let updateKey := match s.updateKey with
    | some key => "Some(" ++ describeText key ++ ")"
    | none => "None"
  "TableSchema \x7b resource_type: " ++ describeKind s.kind ++
    ", columns: [" ++ ", ".intercalate (s.columns.map column) ++
    "], container_columns: [" ++ ", ".intercalate (s.containers.map describeText) ++
    "], update_key: " ++ updateKey ++ " \x7d"

end TableSchema

end GridStore
