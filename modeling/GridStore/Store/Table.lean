import GridStore.Store.Row

/-!
# Tables

The tables of a backend and what one statement does to them: it writes all of its rows or, where
one of them would share a key with another row, none. No two rows of an equipment table share
their network, variant number and id; no two rows of the network table share their network and
variant number, or their network and variant id.
-/

namespace GridStore

/-- A table of a backend. -/
structure Table where
  /-- The columns that the table has. -/
  columns : List String
  rows : List Row
deriving DecidableEq, Repr, Inhabited

/-- The tables of a backend, by what they hold. -/
structure Tables where
  entries : List (Kind × Table)
deriving DecidableEq, Repr, Inhabited

/-- The columns of a kind's table when it is created. -/
def Kind.columns (k : Kind) : List String :=
  k.layout.insertedColumns ++ k.schema.columnNames

namespace Table

/-- Whether two rows share the key of equipment. -/
def sameResource (r s : Row) : Bool :=
  r.network = s.network && r.variantNum = s.variantNum && r.id = s.id

/-- Whether two rows share the number of a network's variant. -/
def sameVariantNum (r s : Row) : Bool :=
  r.network = s.network && r.variantNum = s.variantNum

/-- Whether two rows share the id of a network's variant. -/
def sameVariantId (r s : Row) : Bool :=
  r.network = s.network && r.variantId = s.variantId

/-- The columns of a key that a row shares with one of other rows. -/
def conflict? (k : Kind) (others : List Row) (r : Row) : Option (List String) :=
  match k with
  | .network =>
    if others.any (sameVariantId r) then some ["uuid", "variantId"]
    else if others.any (sameVariantNum r) then some ["uuid", "variantNum"]
    else none
  | .equipment _ =>
    if others.any (sameResource r) then some ["networkUuid", "variantNum", "id"] else none

/-- Lets a row stand beside others unless it shares a key with one. -/
def check (k : Kind) (others : List Row) (r : Row) : Except StoreError Unit :=
  match conflict? k others r with
  | some columns => .error (.uniqueViolation k.table columns)
  | none => .ok ()

/-- Adds a row. -/
def insertRow (k : Kind) (rows : List Row) (r : Row) : Except StoreError (List Row) := do
  check k rows r
  return rows ++ [r]

/-- Replaces matching rows one after the other; `before` are the rows before the ones to go. -/
def updateRows (k : Kind) (p : Row → Bool) (f : Row → Row) (before : List Row) :
    List Row → Except StoreError (List Row)
  | [] => .ok []
  | r :: rest =>
    if p r then do
      check k (before ++ rest) (f r)
      let rest ← updateRows k p f (f r :: before) rest
      return f r :: rest
    else do
      let rest ← updateRows k p f (r :: before) rest
      return r :: rest

end Table

namespace Tables

/-- No tables. -/
def empty : Tables := ⟨[]⟩

/-- The table of a kind. -/
def table? (ts : Tables) (k : Kind) : Option Table :=
  ts.entries.lookup k

/-- The rows of a kind, none where there is no table. -/
def rows (ts : Tables) (k : Kind) : List Row :=
  (ts.table? k).elim [] Table.rows

/-- Puts rows in the place of those of a kind's table. -/
def setRows (ts : Tables) (k : Kind) (rows : List Row) : Tables :=
  ⟨ts.entries.map fun (j, t) => (j, if j = k then { t with rows } else t)⟩

/-- The rows of a kind's table, which has to be there. -/
def existing (ts : Tables) (k : Kind) : Except StoreError (List Row) :=
  match ts.table? k with
  | some t => .ok t.rows
  | none => .error (.queryFailed (.noSuchTable k.table))

/-! ## Statements -/

/-- The rows that match. -/
def select (ts : Tables) (k : Kind) (p : Row → Bool) : Except StoreError (List Row) := do
  return (← ts.existing k).filter p

/-- Adds a row. -/
def insert (ts : Tables) (k : Kind) (r : Row) : Except StoreError Tables := do
  return ts.setRows k (← Table.insertRow k (← ts.existing k) r)

/-- Replaces the rows that match, and says how many there are. -/
def update (ts : Tables) (k : Kind) (p : Row → Bool) (f : Row → Row) :
    Except StoreError (Tables × Nat) := do
  let rows ← ts.existing k
  return (ts.setRows k (← Table.updateRows k p f [] rows), rows.countP p)

/-- Removes the rows that match, and says how many there were. -/
def delete (ts : Tables) (k : Kind) (p : Row → Bool) : Except StoreError (Tables × Nat) := do
  let rows ← ts.existing k
  return (ts.setRows k (rows.filter fun r => !p r), rows.countP p)

/-- Adds copies of the rows that match, and says how many there are. -/
def copy (ts : Tables) (k : Kind) (p : Row → Bool) (f : Row → Row) :
    Except StoreError (Tables × Nat) := do
  let rows ← ts.existing k
  let copies := (rows.filter p).map f
  return (ts.setRows k (← copies.foldlM (Table.insertRow k) rows), copies.length)

/-! ## Tables -/

/-- Adds the table of a kind unless there is one. -/
def create (ts : Tables) (k : Kind) : Tables :=
  if (ts.table? k).isSome then ts else ⟨ts.entries ++ [(k, ⟨k.columns, []⟩)]⟩

/-- Removes the table of a kind. -/
def drop (ts : Tables) (k : Kind) : Except StoreError Tables := do
  let _ ← ts.existing k
  return ⟨ts.entries.filter fun e => e.1 ≠ k⟩

end Tables

end GridStore
