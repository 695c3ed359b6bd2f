import GridStore.Kind

/-!
# Table layouts

Beside its mapped columns a table has fixed ones that say whose row it is: the network, the number
of the variant and the id. The network table names its first column differently and holds the id
of the variant too.
-/

namespace GridStore

/-- The fixed columns of a table. -/
structure TableLayout where
  table : String
  /-- The column with the network's uuid. -/
  networkColumn : String
  /-- The column with the variant's id, in the network table only. -/
  variantIdColumn : Option String
deriving DecidableEq, Repr

namespace TableLayout

/-- The layout of the network table. -/
def network : TableLayout :=
  { table := "network", networkColumn := "uuid", variantIdColumn := some "variantId" }

/-- The layout of an equipment table. -/
def equipment (table : String) : TableLayout :=
  { table, networkColumn := "networkUuid", variantIdColumn := none }

/-- Whether the layout is a network table's: those have a column for the variant's id. -/
def isNetwork (l : TableLayout) : Bool :=
  l.variantIdColumn.isSome

/-- The names of the fixed columns, which no mapped column may take. -/
def fixedColumns (l : TableLayout) : List String :=
  if l.isNetwork then ["uuid", "variantNum", "variantId", "id"]
  else ["networkUuid", "variantNum", "id"]

/-- The columns that stand before the mapped ones in what a query selects. -/
def selectedColumns (l : TableLayout) : List String :=
  "id" :: l.variantIdColumn.toList

/-- The columns that stand before the mapped ones in a new row. -/
def insertedColumns (l : TableLayout) : List String :=
  [l.networkColumn, "variantNum"] ++ l.variantIdColumn.toList ++ ["id"]

end TableLayout

/-- The layout of the kind's table. -/
def Kind.layout : Kind → TableLayout
  | .network => .network
  | .equipment k => .equipment k.table

end GridStore
