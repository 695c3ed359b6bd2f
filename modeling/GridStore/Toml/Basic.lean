import GridStore.Binary64.Basic

/-!
# TOML values

A document is a table: entries with keys, in the order in which they are defined. A table that a
document builds up remembers what made it, since that decides what may still be added to it. A
table written in place as one value is closed.
-/

namespace GridStore

/-- What made a table of a document. -/
inductive Toml.Origin where
  /-- A header of its own. The document itself and the tables of an array count as such. -/
  | header
  /-- A header of a table inside it. -/
  | implied
  /-- The key of a pair inside it. -/
  | dotted
deriving DecidableEq, Repr

/-- A TOML value. -/
inductive Toml where
  | string (s : String)
  | integer (n : Int)
  | float (x : Binary64)
  | boolean (b : Bool)
  /-- A date, a time or both. Nothing here asks which. -/
  | moment
  | array (items : List Toml)
  /-- A table written in place. -/
  | inlineTable (entries : List (String × Toml))
  | table (origin : Toml.Origin) (entries : List (String × Toml))
  /-- The tables that share a header for elements of an array, the last of them apart. -/
  | tables (earlier : List (List (String × Toml))) (last : List (String × Toml))
deriving Inhabited

namespace Toml

/-- The entries of a table. -/
abbrev Entries := List (String × Toml)

/-- A key: the names of the tables on the way, and the name at its end. -/
structure Key where
  path : List String
  name : String
deriving DecidableEq, Repr

namespace Entries

/-- Changes what stands under a key, which may be nothing, in place. -/
def adjust (name : String) (change : Option Toml → Option Toml) : Entries → Option Entries
  | [] => (change none).map fun v => [(name, v)]
  | (k, v) :: rest =>
    if k = name then (change (some v)).map fun v => (k, v) :: rest
    else (adjust name change rest).map ((k, v) :: ·)

/-- Changes the table at the end of a path. Tables that are not there are made, with the given
origin. A path goes on in the last of several tables; it cannot go through another value, and one
that dotted keys follow cannot go through a table with a header. -/
def descend (made : Origin) (change : Origin → Entries → Option Entries) :
    List String → Origin → Entries → Option Entries
  | [], origin, entries => change origin entries
  | name :: path, _, entries => adjust name (fun
      | none => (descend made change path made []).map (.table made)
      | some (.table origin es) =>
        if made = .dotted ∧ origin = .header then none
        else (descend made change path origin es).map (.table origin)
      | some (.tables earlier last) =>
        (descend made change path .header last).map (.tables earlier)
      | some _ => none) entries

/-- Defines a key that is not defined yet. The tables on its way are those of dotted keys alone
once it has any. -/
def define (key : Key) (v : Toml) : Entries → Option Entries :=
  descend .dotted (fun origin entries =>
    if origin = .dotted ↔ key.path ≠ [] then
      adjust key.name (fun
        | none => some v
        | some _ => none) entries
    else none) key.path .header

end Entries

end Toml

end GridStore
