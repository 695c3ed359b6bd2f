import GridStore.Binary64.Basic

/-!
# JSON values

A value keeps whole numbers and floating-point numbers apart, and an object keeps its members in
increasing order of their keys, each key once; `Json.insert` is how a member enters an object.
-/

namespace GridStore

/-- A number of a document: digits alone denote a whole number, anything else a double. -/
inductive Number where
  | int (n : Int)
  | float (x : Binary64)
deriving DecidableEq, Repr, Inhabited

/-- The double nearest to a number. -/
def Number.toBinary64 : Number → Binary64
  | .int n => .ofInt n
  | .float x => x

/-- Equality of numbers, a whole number never being equal to a double. -/
def Number.same : Number → Number → Bool
  | .int a, .int b => a == b
  | .float a, .float b => a == b
  | _, _ => false

/-- A JSON value. -/
inductive Json where
  | null
  | bool (b : Bool)
  | num (n : Number)
  | str (s : String)
  | arr (items : List Json)
  | obj (members : List (String × Json))
deriving Inhabited

/-- Puts an entry into a list sorted by key, in the place of the entry with that key if there is
one. -/
def insertByKey {α : Type} (key : String) (value : α) : List (String × α) → List (String × α)
  | [] => [(key, value)]
  | (k, v) :: rest =>
    if key < k then (key, value) :: (k, v) :: rest
    else if key = k then (key, value) :: rest
    else (k, v) :: insertByKey key value rest

namespace Json

/-- A whole number. -/
def int (n : Int) : Json := .num (.int n)

/-- A double. -/
def float (x : Binary64) : Json := .num (.float x)

/-- The object with the given members; the last of several with one key counts. -/
def ofMembers (members : List (String × Json)) : Json :=
  .obj (members.foldl (fun sorted (key, value) => insertByKey key value sorted) [])

/-- The member of an object with the given key. -/
def get? (key : String) : Json → Option Json
  | .obj members => members.lookup key
  | _ => none

mutual

/-- Equality of values, with numbers compared as numbers: NaN differs from itself. -/
def same : Json → Json → Bool
  | .null, .null => true
  | .bool a, .bool b => a == b
  | .num a, .num b => a.same b
  | .str a, .str b => a == b
  | .arr a, .arr b => sameItems a b
  | .obj a, .obj b => sameMembers a b
  | _, _ => false

/-- Equality of arrays, item by item. -/
def sameItems : List Json → List Json → Bool
  | [], [] => true
  | a :: as, b :: bs => same a b && sameItems as bs
  | _, _ => false

/-- Equality of sorted member lists. -/
def sameMembers : List (String × Json) → List (String × Json) → Bool
  | [], [] => true
  | (j, a) :: as, (k, b) :: bs => j == k && same a b && sameMembers as bs
  | _, _ => false

end

instance : BEq Json := ⟨same⟩

mutual

/-- How many arrays and objects enclose the innermost value. -/
def depth : Json → Nat
  | .arr items => depthItems items + 1
  | .obj members => depthMembers members + 1
  | _ => 0

/-- The greatest depth of an array's items. -/
def depthItems : List Json → Nat
  | [] => 0
  | item :: items => max (depth item) (depthItems items)

/-- The greatest depth of an object's values. -/
def depthMembers : List (String × Json) → Nat
  | [] => 0
  | (_, value) :: members => max (depth value) (depthMembers members)

end

mutual

/-- The value with each value in it that is no array and no object replaced. -/
def mapLeaves (f : Json → Json) : Json → Json
  | .arr items => .arr (mapItems f items)
  | .obj members => .obj (mapMembers f members)
  | v => f v

/-- The items of an array with what is inside them replaced. -/
def mapItems (f : Json → Json) : List Json → List Json
  | [] => []
  | item :: items => mapLeaves f item :: mapItems f items

/-- The members of an object with what is inside their values replaced. -/
def mapMembers (f : Json → Json) : List (String × Json) → List (String × Json)
  | [] => []
  | (key, value) :: members => (key, mapLeaves f value) :: mapMembers f members

end

/-- The value with each text in it replaced. -/
def mapTexts (f : String → String) : Json → Json :=
  mapLeaves fun
    | .str s => .str (f s)
    | v => v

end Json

end GridStore
