import GridStore.Attributes.Basic
import GridStore.Resource
import GridStore.Store.Cell
import GridStore.Store.Error
import GridStore.Variant

/-!
# Rows

A row holds whose it is, in the fixed columns, and attributes, in the mapped ones. Reading one
fetches all mapped columns in order before any of them is converted, so a column that holds what
its type does not allow, or text that is no JSON, is found before a value that does not fit its
field.
-/

namespace GridStore

/-- A row of a table. -/
structure Row where
  network : Cell
  variantNum : Cell
  /-- The id of the variant, in the network table only. -/
  variantId : Option Cell
  id : Cell
  /-- What the mapped columns hold, in their order. -/
  values : List Cell
deriving DecidableEq, Repr, Inhabited

namespace Cell

/-- What holds a uuid. -/
def ofUuid (u : Uuid) : Cell :=
  .text u.text

/-- What holds a whole number of 32 bits. -/
def ofInt32 (n : Int32) : Cell :=
  .integer n.toInt64

/-- The text that a cell has to hold. -/
def toText : Cell → Except StoreError String
  | .text s => .ok s
  | _ => .error .undecodable

/-- The whole number that a cell has to hold. -/
def toInt64 : Cell → Except StoreError Int64
  | .integer n => .ok n
  | _ => .error .undecodable

/-- The value of a column, from what the table holds in it. A column of reals may hold a text, the
word for a number beyond the finite ones. -/
def fetch (table : String) (c : ColumnInfo) (cell : Cell) : Except StoreError ColumnValue :=
  match c.columnType, cell with
  | _, .null => .ok .null
  | .boolean, .integer n => .ok (.boolean (n ≠ 0))
  | .integer, .integer n => .ok (.integer n)
  | .real, .real x => .ok (.real x)
  | .real, .text s => .ok (.text s)
  | .text, .text s => .ok (.text s)
  | .list, .text s | .json, .text s =>
    match Json.ofText? s with
    | some v => .ok (.json v)
    | none => .error (.mapping (.column table c.name .json))
  | _, _ => .error .undecodable

end Cell

namespace Row

/-! ## Writing -/

/-- What the mapped columns hold of values. -/
def storeAll (columns : List ColumnInfo) (values : List ColumnValue) : List Cell :=
  columns.zipWith (fun c v => Cell.store c.columnType v) values

/-- What the mapped columns hold of attributes. -/
def ofAttributes {A : Type} [Attributes A] (a : A) : List Cell :=
  storeAll (Attributes.schema A).columns ((Attributes.mapping (A := A)).values a)

/-- The row of an equipment of a network. -/
def ofEquipment {A : Type} [Attributes A] (network : Uuid) (r : Resource A) : Row where
  network := .ofUuid network
  variantNum := .ofInt32 r.variantNum
  variantId := none
  id := .text r.id
  values := ofAttributes r.attributes

/-- The row of a network, in a variant with the given id. -/
def ofNetwork (variantId : String) (r : Resource Network) : Row where
  network := .ofUuid r.attributes.uuid
  variantNum := .ofInt32 r.variantNum
  variantId := some (.text variantId)
  id := .text r.id
  values := ofAttributes r.attributes

/-! ## Reading -/

/-- The values of the mapped columns. -/
def fetchAll (table : String) : List ColumnInfo → List Cell → Except StoreError (List ColumnValue)
  | c :: columns, cell :: cells => do
    let v ← cell.fetch table c
    let vs ← fetchAll table columns cells
    return v :: vs
  | _, _ => .ok []

/-- The attributes that the mapped columns hold. -/
def toAttributes (A : Type) [Attributes A] (r : Row) : Except StoreError A := do
  let values ← fetchAll (Attributes.schema A).table (Attributes.schema A).columns r.values
  match (Attributes.mapping (A := A)).read default values with
  | .ok a => .ok a
  | .error e => .error (.mapping e)

/-- The equipment that a row of a variant holds. -/
def toEquipment (A : Type) [Attributes A] (variantNum : Int32) (r : Row) :
    Except StoreError (Resource A) := do
  let id ← r.id.toText
  let attributes ← r.toAttributes A
  return .of id variantNum attributes

/-- The network that a row of a variant holds. -/
def toNetwork (network : Uuid) (variantNum : Int32) (r : Row) :
    Except StoreError (Resource Network) := do
  let id ← r.id.toText
  let variantId ← (r.variantId.getD .null).toText
  let attributes ← r.toAttributes Network
  return .of id variantNum { attributes with uuid := network, variantId }

/-- The variant that a row of the network table holds. -/
def toVariant (r : Row) : Except StoreError Variant := do
  let num ← r.variantNum.toInt64
  let id ← (r.variantId.getD .null).toText
  match ColumnCodec.ofColumn (α := Int32) (.integer num) with
  | .ok num => return { id, num }
  | .error e => .error (.mapping (.column Kind.network.table "variantNum" e))

/-- The network that a row of an initial variant lists. -/
def toListedNetwork (r : Row) : Except StoreError ListedNetwork := do
  let text ← r.network.toText
  match ColumnCodec.ofColumn (α := Uuid) (.text text) with
  | .ok uuid => return { uuid, id := ← r.id.toText }
  | .error e => .error (.mapping (.column Kind.network.table "uuid" e))

/-! ## Matching -/

/-- Whether a row is a network's. -/
def isOf (network : Uuid) (r : Row) : Bool :=
  r.network = .ofUuid network

/-- Whether a row is a network's in a variant. -/
def isIn (network : Uuid) (variantNum : Int32) (r : Row) : Bool :=
  r.variantNum = .ofInt32 variantNum && r.isOf network

/-- Whether a row is the one with an id of a network in a variant. -/
def isAt (network : Uuid) (variantNum : Int32) (id : String) (r : Row) : Bool :=
  r.id = .text id && r.isIn network variantNum

/-- Whether one of the columns that name a container holds an id. -/
def isAttached (s : TableSchema) (container : String) (r : Row) : Bool :=
  (s.columnNames.zip r.values).any fun (name, cell) => name ∈ s.containers && cell = .text container

/-! ## Replacing and copying -/

/-- Whether a row holds in the column that an update matches what an update binds. -/
def matchesKey (s : TableSchema) (assigned : List Cell) (r : Row) : Bool :=
  (s.columnNames.zip (r.values.zip assigned)).all fun (name, old, new) =>
    some name ≠ s.updateKey || old = new

/-- The row with the mapped columns assigned, apart from the one that an update matches. -/
def assign (s : TableSchema) (assigned : List Cell) (r : Row) : Row :=
  { r with
    values := (s.columnNames.zip (r.values.zip assigned)).map fun (name, old, new) =>
      if some name = s.updateKey then old else new }

/-- The copy of a row in another variant, whose id a network's row takes over. -/
def toVariantNum (variantNum : Int32) (variantId : String) (r : Row) : Row :=
  { r with
    variantNum := .ofInt32 variantNum
    variantId := r.variantId.map fun _ => .text variantId }

/-- The copy of a row in the same variant of another network. -/
def toOtherNetwork (network : Uuid) (r : Row) : Row :=
  { r with network := .ofUuid network }

end Row

end GridStore
