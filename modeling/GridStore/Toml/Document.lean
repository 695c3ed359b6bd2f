import GridStore.Toml.Value

/-!
# TOML documents

A document is lines: pairs, and headers that name the table to which the pairs after them belong.
A header names a table that no other header, key or value has made, though a header of a table
inside it may have; a header in double brackets adds a table to the array of that name.
-/

namespace GridStore.Toml

/-- A line of a document that says something. -/
inductive Statement where
  | table (key : Key)
  /-- The header of another table of an array. -/
  | element (key : Key)
  | pair (key : Key) (v : Toml)

namespace Statement

/-- Reads a statement. -/
def read? : List Char → Option (Statement × List Char)
  | '[' :: '[' :: cs =>
    match key? cs with
    | some (key, ']' :: ']' :: rest) => some (.element key, rest)
    | _ => none
  | '[' :: cs =>
    match key? cs with
    | some (key, ']' :: rest) => some (.table key, rest)
    | _ => none
  | cs => (pair? value? cs).map fun ((key, v), rest) => (.pair key v, rest)

/-- Reads statements up to the end of a text, at most so many less one. -/
def readAll? : Nat → List Char → Option (List Statement)
  | 0, _ => none
  | n + 1, cs =>
    match skipLines false cs with
    | [] => some []
    | cs => do
      let (s, rest) ← read? cs
      let statements ← readAll? n (← endLine? rest)
      some (s :: statements)

end Statement

/-- The document that some statements make, and the table to which pairs belong. -/
structure Draft where
  entries : Entries
  path : List String

namespace Draft

/-- Changes the table at the end of a path of headers. -/
def change (path : List String) (f : Entries → Option Entries) (d : Draft) : Option Entries :=
  Entries.descend .implied (fun _ => f) path .header d.entries

/-- Says the next statement of a document. -/
def say (d : Draft) : Statement → Option Draft
  | .table key =>
    (d.change key.path (Entries.adjust key.name fun
      | none => some (.table .header [])
      | some (.table .implied entries) => some (.table .header entries)
      | some _ => none)).map (⟨·, key.path ++ [key.name]⟩)
  | .element key =>
    (d.change key.path (Entries.adjust key.name fun
      | none => some (.tables [] [])
      | some (.tables earlier last) => some (.tables (earlier ++ [last]) [])
      | some _ => none)).map (⟨·, key.path ++ [key.name]⟩)
  | .pair key v => (d.change d.path (Entries.define key v)).map (⟨·, d.path⟩)

end Draft

/-- The mark that may stand before a document. -/
def byteOrderMark : Char := '\ufeff'

/-- The entries of a document, if it is well formed. -/
def read? (text : String) : Option Entries := do
  let cs := match text.toList with
    | c :: cs => if c = byteOrderMark then cs else c :: cs
    | [] => []
  let statements ← Statement.readAll? (cs.length + 1) cs
  let draft ← statements.foldlM Draft.say ⟨[], []⟩
  some draft.entries

end GridStore.Toml
