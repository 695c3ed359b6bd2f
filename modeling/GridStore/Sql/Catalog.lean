import GridStore.Mapping.Schema
import GridStore.Sql.Statement

/-!
# The statements of a table

The shapes of statement that a store prepares for a table, from the table's fixed and mapped
columns. Which rows a statement is about is said by the fixed columns: those of a network, of a
variant of it, or the one with an id there. An update matches the update key of the table instead
of assigning it, and copies of rows differ from the rows in the columns that are bound.
-/

namespace GridStore.Sql

/-- The shapes of statement. -/
inductive Shape where
  | selectOne
  | selectAll
  | selectByContainer
  | insert
  | update
  | deleteOne
  | deleteByVariant
  | deleteByNetwork
  | cloneVariant
  | cloneNetwork
  /-- The variants of a network. -/
  | listVariants
  /-- The networks, as their initial variants say. -/
  | selectNetworkInfos
deriving DecidableEq, Repr, Inhabited

namespace Shape

/-- Every shape, in the order of their declaration. -/
def all : List Shape :=
  [.selectOne, .selectAll, .selectByContainer, .insert, .update, .deleteOne, .deleteByVariant,
    .deleteByNetwork, .cloneVariant, .cloneNetwork, .listVariants, .selectNetworkInfos]

/-- The name of the shape. -/
def name : Shape → String
  | selectOne => "select_one"
  | selectAll => "select_all"
  | selectByContainer => "select_by_container"
  | insert => "insert"
  | update => "update"
  | deleteOne => "delete_one"
  | deleteByVariant => "delete_by_variant"
  | deleteByNetwork => "delete_by_network"
  | cloneVariant => "clone_variant"
  | cloneNetwork => "clone_network"
  | listVariants => "list_variants"
  | selectNetworkInfos => "select_network_infos"

end Shape

/-- The rows of a variant. -/
def ofVariant (l : TableLayout) : List Condition :=
  [.equals l.networkColumn, .equals "variantNum"]

/-- One row: of a variant the one with an id, or the network's own. -/
def ofRow (l : TableLayout) : List Condition :=
  if l.isNetwork then ofVariant l else ofVariant l ++ [.equals "id"]

/-- Selects one row. -/
def selectOne (l : TableLayout) (columns : List String) : Statement :=
  .select (l.selectedColumns ++ columns) l.table (ofRow l) none

/-- Selects the rows of a variant. -/
def selectAll (l : TableLayout) (columns : List String) : Statement :=
  .select (l.selectedColumns ++ columns) l.table (ofVariant l) none

/-- Selects the rows of a variant that one of the container columns attaches to a container. -/
def selectByContainer (l : TableLayout) (columns containers : List String) : Statement :=
  .select (l.selectedColumns ++ columns) l.table (ofVariant l ++ [.anyOf containers]) none

/-- Inserts a row. -/
def insert (l : TableLayout) (columns : List String) : Statement :=
  .insert l.table (l.insertedColumns ++ columns)

/-- Replaces the mapped columns of a row, apart from the key, which has to match. A network's row
gets a new id too, and a new variant id if one is given. -/
def update (l : TableLayout) (columns : List String) (key : Option String) : Statement :=
  let fixed : List Assignment := match l.variantIdColumn with
    | some variantId => [.set "id", .setUnlessNull variantId]
    | none => []
  .update l.table (fixed ++ (columns.filter fun c => some c ≠ key).map .set)
    (ofRow l ++ key.toList.map .equals)

/-- Deletes one row. -/
def deleteOne (l : TableLayout) : Statement :=
  .delete l.table (ofRow l)

/-- Deletes the rows of a variant. -/
def deleteByVariant (l : TableLayout) : Statement :=
  .delete l.table (ofVariant l)

/-- Deletes the rows of a network. -/
def deleteByNetwork (l : TableLayout) : Statement :=
  .delete l.table [.equals l.networkColumn]

/-- Copies the rows of a variant: some columns of the copies and what these hold, and the mapped columns
as they are. -/
def copyVariant (l : TableLayout) (columns target : List String) (source : List Source) : Statement :=
  .copy l.table (target ++ columns) (source ++ columns.map .column) (ofVariant l)

/-- Copies the rows of a variant; the number of the copy and, for a network, its id are bound. -/
def cloneVariant (l : TableLayout) (columns : List String) : Statement :=
  match l.variantIdColumn with
  | some variantId =>
    copyVariant l columns ["variantNum", variantId, l.networkColumn, "id"]
      [.bound, .bound, .column l.networkColumn, .column "id"]
  | none =>
    copyVariant l columns ["variantNum", l.networkColumn, "id"]
      [.bound, .column l.networkColumn, .column "id"]

/-- Copies the rows of a variant to another network; the number and network of the copy and, for a
network, its variant id are bound. -/
def cloneNetwork (l : TableLayout) (columns : List String) : Statement :=
  match l.variantIdColumn with
  | some variantId =>
    copyVariant l columns ["variantNum", variantId, l.networkColumn, "id"]
      [.bound, .bound, .bound, .column "id"]
  | none =>
    copyVariant l columns ["variantNum", l.networkColumn, "id"] [.bound, .bound, .column "id"]

/-- Lists the variants of a network by number. -/
def listVariants (l : TableLayout) : Statement :=
  .select [l.variantIdColumn.getD "variantId", "variantNum"] l.table [.equals l.networkColumn]
    (some "variantNum")

/-- Lists the networks by the ids of their initial variants. -/
def selectNetworkInfos (l : TableLayout) : Statement :=
  .select [l.networkColumn, "id"] l.table [.isZero "variantNum"] (some "id")

/-- The statements of a table, in the order in which they are prepared. -/
def statements (s : TableSchema) : List (Shape × Statement) :=
  let l := s.layout
  let columns := s.columnNames
  [(.selectOne, selectOne l columns),
   (.insert, insert l columns),
   (.update, update l columns s.updateKey),
   (.deleteByVariant, deleteByVariant l),
   (.deleteByNetwork, deleteByNetwork l),
   (.cloneVariant, cloneVariant l columns),
   (.cloneNetwork, cloneNetwork l columns)] ++
  if l.isNetwork then
    [(.listVariants, listVariants l), (.selectNetworkInfos, selectNetworkInfos l)]
  else
    [(.selectAll, selectAll l columns), (.deleteOne, deleteOne l)] ++
    if s.hasContainer then [(.selectByContainer, selectByContainer l columns s.containers)] else []

end GridStore.Sql
