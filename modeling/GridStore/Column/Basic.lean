import GridStore.Json.Basic

/-!
# Column values

The shapes that a column may hold and the values that pass between attributes and a store. `Null`
stands for an absent optional value only; a nested value is a JSON value, and a number beyond the
finite ones is passed as a word (see `GridStore.Column.Codec`).
-/

namespace GridStore

/-- The shape of a mapped column. -/
inductive ColumnType where
  | boolean
  | integer
  | real
  | text
  /-- A list of scalars, held as a JSON array. -/
  | list
  /-- A nested value, held as JSON. -/
  | json
deriving DecidableEq, Repr

namespace ColumnType

/-- The name of the shape. -/
def name : ColumnType → String
  | boolean => "BOOLEAN"
  | integer => "INTEGER"
  | real => "REAL"
  | text => "TEXT"
  | list => "LIST"
  | json => "JSON"

/-- The type of the column in a table. -/
def sqlType : ColumnType → String
  | boolean => "BOOLEAN"
  | integer => "INTEGER"
  | real => "REAL"
  | text | list | json => "TEXT"

/-- Whether the column holds JSON text. -/
def isJsonEncoded : ColumnType → Bool
  | list | json => true
  | _ => false

end ColumnType

/-- A value of a column. -/
inductive ColumnValue where
  | null
  | boolean (b : Bool)
  | integer (n : Int64)
  | real (x : Binary64)
  | text (s : String)
  | json (v : Json)
deriving Inhabited

namespace ColumnValue

/-- The name of the value's shape. -/
def shape : ColumnValue → String
  | null => "null"
  | boolean _ => "boolean"
  | integer _ => "integer"
  | real _ => "real"
  | text _ => "text"
  | json _ => "json"

/-- Whether the value is null. The JSON value null is not. -/
def isNull : ColumnValue → Bool
  | null => true
  | _ => false

/-- Equality of values, with numbers compared as numbers. -/
def same : ColumnValue → ColumnValue → Bool
  | null, null => true
  | boolean a, boolean b => a == b
  | integer a, integer b => a == b
  | real a, real b => a == b
  | text a, text b => a == b
  | json a, json b => a == b
  | _, _ => false

instance : BEq ColumnValue := ⟨same⟩

/-- The value without its shape as JSON, integers as texts; nothing for null. -/
def payload? : ColumnValue → Option Json
  | null => none
  | boolean b => some (.bool b)
  | integer n => some (.str (toString n.toInt))
  | real x => some (.float x)
  | text s => some (.str s)
  | json v => some v

/-- The value as JSON, with its shape. -/
def toJson (v : ColumnValue) : Json :=
  .ofMembers (("k", .str v.shape) :: v.payload?.toList.map fun p => ("v", p))

end ColumnValue

/-- Why a value does not fit a field. -/
inductive ColumnError where
  /-- Null where a value is required. -/
  | unexpectedNull
  /-- A value of another shape than the column's. -/
  | typeMismatch (expected : ColumnType) (found : String)
  /-- A text that denotes no value of the field, and what it was read as if that can be said. -/
  | invalidValue (value : String) (reason : Option String)
  /-- A whole number beyond the range of the field. -/
  | integerOverflow (n : Int64)
  /-- A JSON value or text that is no value of the field. -/
  | json
deriving DecidableEq, Repr

/-- The name of the error for programs. -/
def ColumnError.code : ColumnError → String
  | unexpectedNull => "UnexpectedNull"
  | typeMismatch .. => "TypeMismatch"
  | invalidValue .. => "InvalidValue"
  | integerOverflow _ => "IntegerOverflow"
  | json => "Json"

/-- The wording of the error. -/
def ColumnError.message : ColumnError → String
  | unexpectedNull => "unexpected NULL"
  | typeMismatch expected found => s!"expected {expected.name} value, found {found}"
  | invalidValue value none => s!"invalid value '{value}'"
  | invalidValue value (some reason) => s!"invalid value '{value}': {reason}"
  | integerOverflow n => s!"integer {n.toInt} out of range"
  | json => "JSON codec failed"

end GridStore
