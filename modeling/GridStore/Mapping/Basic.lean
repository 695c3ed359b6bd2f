import GridStore.Column.Codec
import GridStore.Json.Member
import GridStore.Mapping.Schema

/-!
# Mappings

A mapping says which column of a table holds which field of the attributes. All that moves
attributes in and out of rows goes through one: the values of a row in column order, the values
that an update assigns, and filling attributes from the values of a row, which stops at the first
value that does not fit and leaves the fields of the columns before it filled.
-/

namespace GridStore

/-- A field of attributes that is a member of their object and may be held in a column. -/
structure Field (A : Type) extends Member A where
  column : ColumnCodec Value

namespace Field

variable {A α : Type}

/-- A field that has to be there. -/
def required (name : String) [JsonValue α] [c : ColumnCodec α] (get : A → α) (set : α → A → A) :
    Field A :=
  { toMember := .required name JsonValue.codec get set
    column := c }

/-- A field that holds the given value when its member is missing. -/
def defaulted (name : String) [JsonValue α] [c : ColumnCodec α] (default : α) (get : A → α)
    (set : α → A → A) : Field A :=
  { toMember := .defaulted name JsonValue.codec default get set
    column := c }

/-- A field that may hold nothing. -/
def optional (name : String) [JsonValue α] [c : ColumnCodec α] (get : A → Option α)
    (set : Option α → A → A) : Field A :=
  { toMember := .optional name JsonValue.codec get set
    column := c.optional }

/-- The same field of attributes that hold these. -/
def within {B : Type} (get : B → A) (set : A → B → B) (f : Field A) : Field B :=
  { toMember := f.toMember.within get set, column := f.column }

/-- The name and shape of the field's column. -/
def info (f : Field A) : ColumnInfo :=
  { name := f.name, columnType := f.column.columnType }

/-- What the field's column holds. -/
def read (f : Field A) (a : A) : ColumnValue :=
  f.column.toColumn (f.get a)

/-- Fills the field from its column. -/
def write (f : Field A) (v : ColumnValue) (a : A) : Except ColumnError A :=
  (f.column.ofColumn v).map (f.set · a)

end Field

/-- Why the values of a row do not fit a mapping. -/
inductive MappingError where
  /-- The value of a column does not fit its field. -/
  | column (table column : String) (cause : ColumnError)
  /-- There are more or fewer values than columns. -/
  | arityMismatch (table : String) (expected actual : Nat)
deriving DecidableEq, Repr

/-- The name of the error for programs. -/
def MappingError.code : MappingError → String
  | .column _ _ cause => "Mapping." ++ cause.code
  | .arityMismatch .. => "Mapping.ArityMismatch"

/-- The wording of the error. -/
def MappingError.message : MappingError → String
  | .column table name cause => s!"{table}.{name}: {cause.message}"
  | .arityMismatch table expected actual =>
    s!"{table}: expected {expected} column values, got {actual}"

/-- The columns of a kind's table and the fields that they hold. -/
structure Mapping (A : Type) where
  kind : Kind
  fields : List (Field A)
  /-- The columns that name a container. -/
  containers : List String
  /-- The column that an update matches. -/
  updateKey : Option String

namespace Mapping

variable {A : Type}

/-- The mapped columns, without the attributes. -/
def schema (m : Mapping A) : TableSchema where
  kind := m.kind
  columns := m.fields.map (·.info)
  containers := m.containers
  updateKey := m.updateKey

/-- The number of mapped columns. -/
def size (m : Mapping A) : Nat :=
  m.fields.length

/-- The values of the mapped columns, in order. -/
def values (m : Mapping A) (a : A) : List ColumnValue :=
  m.fields.map (·.read a)

/-- The values that an update assigns, in column order, and the one that it matches. -/
def updateValues (m : Mapping A) (a : A) : List ColumnValue × Option ColumnValue :=
  let (assigned, matched) := m.fields.partition fun f => some f.name ≠ m.updateKey
  (assigned.map (·.read a), (matched.map (·.read a)).getLast?)

/-- The value of one column, none if the column is not mapped. -/
def valueOf? (m : Mapping A) (a : A) (column : String) : Option ColumnValue :=
  (m.fields.find? (·.name = column)).map (·.read a)

/-- Fills fields from values, as far as the values fit, with the error that stopped it. -/
def fill (table : String) : List (Field A) → List ColumnValue → A → A × Option MappingError
  | f :: fields, v :: values, a =>
    match f.write v a with
    | .ok a => fill table fields values a
    | .error e => (a, some (.column table f.name e))
  | _, _, a => (a, none)

/-- Fills the mapped fields of attributes from the values of a row. The attributes are as far
filled as the values fit; nothing is filled when there are more or fewer values than columns. -/
def apply (m : Mapping A) (a : A) (values : List ColumnValue) : A × Option MappingError :=
  if values.length = m.size then fill m.kind.table m.fields values a
  else (a, some (.arityMismatch m.kind.table m.size values.length))

/-- The attributes that the values of a row hold, with the unmapped fields as in `start`. -/
def read (m : Mapping A) (start : A) (values : List ColumnValue) : Except MappingError A :=
  match m.apply start values with
  | (a, none) => .ok a
  | (_, some e) => .error e

/-- A one-line description of the mapping. -/
def describe (m : Mapping A) : String :=
  "AttributeMapping \x7b schema: " ++ m.schema.describe ++ " \x7d"

end Mapping

end GridStore
