import GridStore.Column.Basic
import GridStore.Json.Codec

/-!
# Column codecs

How the value of a field becomes the value of a column and is read back. Null is the absent value
of an optional field and nothing else, though the JSON value null is read as absent too; a double
beyond the finite ones is the word for it; a collection or nested value is JSON, which is also read
from its text.
-/

namespace GridStore

/-- A type whose values are held in one column. -/
class ColumnCodec (α : Type) where
  columnType : ColumnType
  toColumn : α → ColumnValue
  ofColumn : ColumnValue → Except ColumnError α

namespace ColumnCodec

/-- The error for a value of a shape that the column does not have. -/
def mismatch (expected : ColumnType) (v : ColumnValue) : ColumnError :=
  if v.isNull then .unexpectedNull else .typeMismatch expected v.shape

/-- A whole number of 64 bits. -/
def integerOfColumn : ColumnValue → Except ColumnError Int64
  | .integer n => .ok n
  | v => .error (mismatch .integer v)

/-- A text. -/
def textOfColumn : ColumnValue → Except ColumnError String
  | .text s => .ok s
  | v => .error (mismatch .text v)

/-- A text that a reader takes. -/
def readColumn {α : Type} (reason : Option String) (read? : String → Option α) (v : ColumnValue) :
    Except ColumnError α := do
  let s ← textOfColumn v
  match read? s with
  | some a => .ok a
  | none => .error (.invalidValue s reason)

instance : ColumnCodec Bool where
  columnType := .boolean
  toColumn := .boolean
  ofColumn
    | .boolean b => .ok b
    | .integer n => .ok (n ≠ 0)
    | v => .error (mismatch .boolean v)

instance : ColumnCodec Int64 where
  columnType := .integer
  toColumn := .integer
  ofColumn := integerOfColumn

instance : ColumnCodec Int32 where
  columnType := .integer
  toColumn n := .integer (.ofInt n.toInt)
  ofColumn v := do
    let n ← integerOfColumn v
    if Int32.minValue.toInt ≤ n.toInt ∧ n.toInt ≤ Int32.maxValue.toInt then .ok (.ofInt n.toInt)
    else .error (.integerOverflow n)

instance : ColumnCodec Binary64 where
  columnType := .real
  toColumn x :=
    match x.nonFiniteText? with
    | some word => .text word
    | none => .real x
  ofColumn
    | .real x => .ok x
    | .integer n => .ok (.ofInt n.toInt)
    | .text s =>
      match Binary64.ofNonFiniteText? s with
      | some x => .ok x
      | none => .error (.invalidValue s (some "not a number"))
    | v => .error (mismatch .real v)

instance : ColumnCodec String where
  columnType := .text
  toColumn := .text
  ofColumn := textOfColumn

instance : ColumnCodec Uuid where
  columnType := .text
  toColumn u := .text u.text
  ofColumn := readColumn none Uuid.read?

instance : ColumnCodec Timestamp where
  columnType := .text
  toColumn t := .text t.writeOffset
  ofColumn := readColumn none Timestamp.readStrict?

/-- The error for a text that is no label of a type. -/
def notALabel (α : Type) [Choice α] : String :=
  "not a " ++ Choice.name α

instance {α : Type} [Choice α] : ColumnCodec α where
  columnType := .text
  toColumn a := .text (Choice.label a)
  ofColumn := readColumn (some (notALabel α)) Choice.ofLabel?

/-- A column that holds JSON. -/
@[reducible]
def ofJson {α : Type} (type : ColumnType) (c : JsonCodec α) : ColumnCodec α where
  columnType := type
  toColumn a := .json (c.encode a)
  ofColumn
    | .json v => match c.ofJson? v with
      | some a => .ok a
      | none => .error .json
    | .text s => match c.ofText? s with
      | some a => .ok a
      | none => .error .json
    | v => .error (mismatch type v)

instance : ColumnCodec (List String) := ofJson .list JsonValue.codec
instance : ColumnCodec (List Int32) := ofJson .list JsonValue.codec
instance : ColumnCodec Properties := ofJson .json JsonValue.codec

instance optional {α : Type} [c : ColumnCodec α] : ColumnCodec (Option α) where
  columnType := c.columnType
  toColumn
    | some a => c.toColumn a
    | none => .null
  ofColumn
    | .null | .json .null => .ok none
    | v => (c.ofColumn v).map some

end ColumnCodec

end GridStore
