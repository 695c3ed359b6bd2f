import GridStore.Toml.Moment
import GridStore.Toml.Number
import GridStore.Toml.Text

/-!
# Values of a TOML document

An array may span lines, hold comments and end with a comma; a table written in place stands on
one line and ends with a pair. Arrays and such tables nest to a fixed depth.
-/

namespace GridStore.Toml

/-- Reads a value that holds no others. -/
def scalar? : List Char → Option (Toml × List Char)
  | 't' :: 'r' :: 'u' :: 'e' :: rest => some (.boolean true, rest)
  | 'f' :: 'a' :: 'l' :: 's' :: 'e' :: rest => some (.boolean false, rest)
  | cs =>
    if cs.head? = some '"' ∨ cs.head? = some '\'' then
      (text? cs).map fun (s, rest) => (.string s, rest)
    else if startsDate cs || startsTime cs then (moment? cs).map (Toml.moment, ·)
    else number? cs

/-- Reads the items of an array after its bracket or a comma, at most so many. -/
def items? (value? : List Char → Option (Toml × List Char)) :
    Nat → List Char → Option (List Toml × List Char)
  | 0, _ => none
  | n + 1, cs =>
    match skipLines false cs with
    | ']' :: rest => some ([], rest)
    | cs => do
      let (v, rest) ← value? cs
      match skipLines false rest with
      | ',' :: rest => (items? value? n rest).map fun (vs, rest) => (v :: vs, rest)
      | ']' :: rest => some ([v], rest)
      | _ => none

/-- Reads a key, an equals sign and a value. -/
def pair? (value? : List Char → Option (Toml × List Char)) (cs : List Char) :
    Option ((Key × Toml) × List Char) := do
  let (key, rest) ← key? cs
  match rest with
  | '=' :: rest => (value? (skipBlanks rest)).map fun (v, rest) => ((key, v), rest)
  | _ => none

/-- Reads the pairs of a table written in place after its brace or a comma, at most so many. -/
def pairs? (value? : List Char → Option (Toml × List Char)) :
    Nat → List Char → Option (List (Key × Toml) × List Char)
  | 0, _ => none
  | n + 1, cs => do
    let (p, rest) ← pair? value? cs
    match skipBlanks rest with
    | ',' :: rest => (pairs? value? n rest).map fun (ps, rest) => (p :: ps, rest)
    | '}' :: rest => some ([p], rest)
    | _ => none

/-- The table that pairs define, if none defines a key again. -/
def inline? (pairs : List (Key × Toml)) : Option Toml :=
  (pairs.foldlM (fun entries (key, v) => Entries.define key v entries) []).map .inlineTable

/-- Reads a value in which others nest at most so deep. -/
def valueUpTo? : Nat → List Char → Option (Toml × List Char)
  | 0, cs => if cs.head? = some '[' ∨ cs.head? = some '{' then none else scalar? cs
  | depth + 1, '[' :: cs =>
    (items? (valueUpTo? depth) (cs.length + 1) cs).map fun (vs, rest) => (.array vs, rest)
  | depth + 1, '{' :: cs =>
    match skipBlanks cs with
    | '}' :: rest => some (.inlineTable [], rest)
    | cs => do
      let (ps, rest) ← pairs? (valueUpTo? depth) (cs.length + 1) cs
      let v ← inline? ps
      some (v, rest)
  | _ + 1, cs => scalar? cs

/-- Reads a value. -/
def value? : List Char → Option (Toml × List Char) :=
  valueUpTo? maxDepth

end GridStore.Toml
