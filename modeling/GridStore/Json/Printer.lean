import GridStore.Json.Tree

/-!
# JSON text

The compact text of a value: members in the order of their keys, and no blanks.
-/

namespace GridStore.Json

mutual

/-- The text of a value. -/
def write : Json → List Char
  | .null => "null".toList
  | .bool b => (if b then "true" else "false").toList
  | .num n => n.write
  | .str s => Quoted.write s
  | .arr items => '[' :: (writeItems items ++ [']'])
  | .obj members => '{' :: (writeMembers members ++ ['}'])

/-- The texts of items, with commas between. -/
def writeItems : List Json → List Char
  | [] => []
  | [item] => write item
  | item :: items => write item ++ ',' :: writeItems items

/-- The texts of members, with commas between. -/
def writeMembers : List (String × Json) → List Char
  | [] => []
  | [(key, value)] => Quoted.write key ++ ':' :: write value
  | (key, value) :: members =>
    Quoted.write key ++ ':' :: (write value ++ ',' :: writeMembers members)

end

/-- The text of a value. -/
def render (v : Json) : String :=
  String.ofList v.write

end GridStore.Json
