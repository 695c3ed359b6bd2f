/-!
# SQL statements

The statements that a store is asked to run, and their text. Every value is a placeholder `?`
bound when the statement runs, and every name stands between double quotes with the quotes inside
it written twice, so that no name can end early and be taken for something else.
-/

namespace GridStore.Sql

/-- A quoted name. -/
def quoteChars (name : List Char) : List Char :=
  '"' :: name.flatMap (fun c => if c = '"' then ['"', '"'] else [c]) ++ ['"']

/-- A quoted name. -/
def quote (name : String) : String :=
  String.ofList (quoteChars name.toList)

/-- Texts with commas between. -/
def commaSeparated (texts : List String) : String :=
  ", ".intercalate texts

/-- Quoted names with commas between. -/
def quotedList (names : List String) : String :=
  commaSeparated (names.map quote)

/-- A condition on rows. -/
inductive Condition where
  /-- The column holds the bound value. -/
  | equals (column : String)
  /-- The column holds zero. -/
  | isZero (column : String)
  /-- One of the columns holds the value bound for it. -/
  | anyOf (columns : List String)
deriving DecidableEq, Repr

/-- The text of a condition. -/
def Condition.text : Condition → String
  | .equals column => quote column ++ " = ?"
  | .isZero column => quote column ++ " = 0"
  | .anyOf columns => "(" ++ " OR ".intercalate (columns.map fun c => quote c ++ " = ?") ++ ")"

/-- The text of conditions that all have to hold. -/
def allOf (conditions : List Condition) : String :=
  " AND ".intercalate (conditions.map Condition.text)

/-- What a statement writes into a column of a matching row. -/
inductive Assignment where
  /-- The bound value. -/
  | set (column : String)
  /-- The bound value, unless that is null. -/
  | setUnlessNull (column : String)
deriving DecidableEq, Repr

/-- The text of an assignment. -/
def Assignment.text : Assignment → String
  | .set column => quote column ++ " = ?"
  | .setUnlessNull column => quote column ++ " = COALESCE(?, " ++ quote column ++ ")"

/-- What a copied row holds in a column. -/
inductive Source where
  /-- The bound value. -/
  | bound
  /-- What the row that it is copied from holds in a column. -/
  | column (name : String)
deriving DecidableEq, Repr

/-- The text of a source. -/
def Source.text : Source → String
  | .bound => "?"
  | .column name => quote name

/-- A statement. -/
inductive Statement where
  /-- Selects columns of the rows that meet all conditions, in the order of a column if given. -/
  | select (columns : List String) (table : String) (conditions : List Condition)
      (orderBy : Option String)
  /-- Inserts a row of bound values. -/
  | insert (table : String) (columns : List String)
  /-- Assigns to the rows that meet all conditions. -/
  | update (table : String) (assignments : List Assignment) (conditions : List Condition)
  /-- Deletes the rows that meet all conditions. -/
  | delete (table : String) (conditions : List Condition)
  /-- Inserts into a table copies of those of its rows that meet all conditions: the columns of the
  copies, and what each of them holds. -/
  | copy (table : String) (target : List String) (source : List Source)
      (conditions : List Condition)
deriving DecidableEq, Repr

namespace Statement

/-- The text of a statement. -/
def text : Statement → String
  | select columns table conditions orderBy =>
    "SELECT " ++ quotedList columns ++ " FROM " ++ quote table ++ " WHERE " ++ allOf conditions ++
      (match orderBy with
        | some column => " ORDER BY " ++ quote column
        | none => "")
  | insert table columns =>
    "INSERT INTO " ++ quote table ++ " (" ++ quotedList columns ++ ") VALUES (" ++
      commaSeparated (columns.map fun _ => "?") ++ ")"
  | update table assignments conditions =>
    "UPDATE " ++ quote table ++ " SET " ++ commaSeparated (assignments.map Assignment.text) ++
      " WHERE " ++ allOf conditions
  | delete table conditions =>
    "DELETE FROM " ++ quote table ++ " WHERE " ++ allOf conditions
  | copy table target source conditions =>
    "INSERT INTO " ++ quote table ++ " (" ++ quotedList target ++ ") SELECT " ++
      commaSeparated (source.map Source.text) ++ " FROM " ++ quote table ++ " WHERE " ++
      allOf conditions

/-- The table that a statement reads or writes. -/
def table : Statement → String
  | select _ table _ _ | insert table _ | update table _ _ | delete table _
  | copy table _ _ _ => table

/-- The columns that a statement gives to new rows. -/
def newRowColumns : Statement → List String
  | insert _ columns => columns
  | copy _ target _ _ => target
  | _ => []

end Statement

end GridStore.Sql
