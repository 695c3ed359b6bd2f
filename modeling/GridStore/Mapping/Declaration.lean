import GridStore.Mapping.Basic

/-!
# Declarations of mappings

A mapping is declared call by call: the columns one after another, the columns that name a
container, and the one that an update matches, of which the last counts. What is declared is looked
over when the declaration is finished. A column says how its value is read from attributes, which
may be found to have none.
-/

namespace GridStore

/-- A declared column, and how the value of the field behind it is read. -/
structure DeclaredColumn (A : Type) extends ColumnInfo where
  read : A → Except ColumnError ColumnValue

/-- The column that holds a field. -/
def Field.declared {A : Type} (f : Field A) : DeclaredColumn A :=
  { toColumnInfo := f.info, read := fun a => .ok (f.read a) }

/-- The mapping that calls declare. -/
structure Declaration (A : Type) where
  kind : Kind
  columns : List (DeclaredColumn A)
  containers : List String
  updateKey : Option String

namespace Declaration

variable {A : Type}

/-- A call of a declaration. -/
inductive Call (A : Type) where
  | column (c : DeclaredColumn A)
  | container (columns : List String)
  | updateKey (column : String)

/-- The declaration without calls. -/
def begin (kind : Kind) : Declaration A :=
  { kind, columns := [], containers := [], updateKey := none }

/-- The declaration after one more call. -/
def call (d : Declaration A) : Call A → Declaration A
  | .column c => { d with columns := d.columns ++ [c] }
  | .container columns => { d with containers := d.containers ++ columns }
  | .updateKey column => { d with updateKey := some column }

/-- The declaration that calls make. -/
def ofCalls (kind : Kind) (calls : List (Call A)) : Declaration A :=
  calls.foldl call (begin kind)

/-- The declared columns, without the attributes. -/
def schema (d : Declaration A) : TableSchema where
  kind := d.kind
  columns := d.columns.map (·.toColumnInfo)
  containers := d.containers
  updateKey := d.updateKey

end Declaration

/-- A declaration that was looked over. -/
structure DeclaredMapping (A : Type) extends Declaration A where
  defect?_schema : toDeclaration.schema.defect? = none

/-- The mapping that is declared, or the first defect of the declaration. -/
def Declaration.build {A : Type} (d : Declaration A) :
    Except TableSchema.Defect (DeclaredMapping A) :=
  match h : d.schema.defect? with
  | some defect => .error defect
  | none => .ok { d with defect?_schema := h }

namespace DeclaredMapping

variable {A : Type}

/-- The value of a column. -/
def valueOfColumn (m : DeclaredMapping A) (a : A) (c : DeclaredColumn A) :
    Except MappingError ColumnValue :=
  (c.read a).mapError (.column m.kind.table c.name)

/-- The values of the columns, in order, up to the first that is not had. -/
def values (m : DeclaredMapping A) (a : A) : Except MappingError (List ColumnValue) :=
  m.columns.mapM (m.valueOfColumn a)

/-- The value of the column with a name, none if there is no such column. -/
def valueOf? (m : DeclaredMapping A) (a : A) (name : String) :
    Except MappingError (Option ColumnValue) :=
  ((m.schema.position? name).bind (m.columns[·]?)).mapM (m.valueOfColumn a)

end DeclaredMapping

end GridStore
