import GridStore.Json.Token

/-!
# Document trees

`Tree` is what a document says before anything is made of it: members in the order written, a key
as often as it was written, numbers and strings that denote nothing included. Reading one is a
pushdown machine on tokens, so nesting is bounded by nothing. A reader of values decides what it
makes of the parts it looks at; `toJson?` looks at all of them, and `Json.toTree` is the tree of a
value.
-/

namespace GridStore

/-- A document as written. -/
inductive Tree where
  | null
  | bool (b : Bool)
  /-- A numeral, with the number it denotes. -/
  | num (n : Option Number)
  /-- A string, with the text it denotes. -/
  | str (s : Option String)
  | arr (items : List Tree)
  | obj (members : List (Option String × Tree))
deriving Inhabited

namespace Tree

/-- An array or object whose end has not been read; what it holds so far is last first. -/
inductive Frame where
  | arr (items : List Tree)
  | obj (members : List (Option String × Tree)) (key : Option String)

/-- What may follow. -/
inductive Expect where
  /-- A value. -/
  | value
  /-- A value or the end of the empty array. -/
  | firstItem
  /-- A key or the end of the empty object. -/
  | firstKey
  /-- A key. -/
  | key (members : List (Option String × Tree))
  /-- The colon after a key. -/
  | colon (members : List (Option String × Tree)) (key : Option String)
  /-- A separator or an end, after a value. -/
  | separator (done : Tree)

/-- One step: the token is read in a state under the open frames. -/
def step : Expect → List Frame → Token → Option (Expect × List Frame)
  | .firstItem, .arr items :: frames, .closeArray =>
    some (.separator (.arr items.reverse), frames)
  | .value, frames, t | .firstItem, frames, t =>
    match t with
    | .null => some (.separator .null, frames)
    | .bool b => some (.separator (.bool b), frames)
    | .num n => some (.separator (.num n), frames)
    | .str s => some (.separator (.str s), frames)
    | .openArray => some (.firstItem, .arr [] :: frames)
    | .openObject => some (.firstKey, frames)
    | _ => none
  | .firstKey, frames, .closeObject => some (.separator (.obj []), frames)
  | .firstKey, frames, .str s => some (.colon [] s, frames)
  | .key members, frames, .str s => some (.colon members s, frames)
  | .colon members key, frames, .colon => some (.value, .obj members key :: frames)
  | .separator done, .arr items :: frames, .comma => some (.value, .arr (done :: items) :: frames)
  | .separator done, .arr items :: frames, .closeArray =>
    some (.separator (.arr (done :: items).reverse), frames)
  | .separator done, .obj members key :: frames, .comma =>
    some (.key ((key, done) :: members), frames)
  | .separator done, .obj members key :: frames, .closeObject =>
    some (.separator (.obj ((key, done) :: members).reverse), frames)
  | _, _, _ => none

/-- Reads tokens to the end, which has to come after one whole value. -/
def run : Expect → List Frame → List Token → Option Tree
  | .separator done, [], [] => some done
  | _, _, [] => none
  | state, frames, t :: ts =>
    match step state frames t with
    | none => none
    | some (state, frames) => run state frames ts

/-- The tree of a document. -/
def ofText? (text : String) : Option Tree := do
  run .value [] (← Token.ofText? text.toList)

mutual

/-- The value of a tree in which everything denotes something and at most `room` arrays and
objects enclose each part. Of members with one key the last counts. -/
def toJson? (room : Nat) : Tree → Option Json
  | .null => some .null
  | .bool b => some (.bool b)
  | .num n => n.map .num
  | .str s => s.map .str
  | .arr items =>
    match room with
    | 0 => none
    | room + 1 => (itemsToJson? room items).map .arr
  | .obj members =>
    match room with
    | 0 => none
    | room + 1 => (membersToJson? room members).map Json.ofMembers

/-- The values of an array's items. -/
def itemsToJson? (room : Nat) : List Tree → Option (List Json)
  | [] => some []
  | item :: items => do
    let item ← toJson? room item
    let items ← itemsToJson? room items
    some (item :: items)

/-- The values of an object's members. -/
def membersToJson? (room : Nat) : List (Option String × Tree) → Option (List (String × Json))
  | [] => some []
  | (key, value) :: members => do
    let key ← key
    let value ← toJson? room value
    let members ← membersToJson? room members
    some ((key, value) :: members)

end

end Tree

namespace Json

mutual

/-- The tree of a value. -/
def toTree : Json → Tree
  | .null => .null
  | .bool b => .bool b
  | .num n => .num (some n)
  | .str s => .str (some s)
  | .arr items => .arr (itemsToTree items)
  | .obj members => .obj (membersToTree members)

/-- The trees of an array's items. -/
def itemsToTree : List Json → List Tree
  | [] => []
  | item :: items => toTree item :: itemsToTree items

/-- The trees of an object's members. -/
def membersToTree : List (String × Json) → List (Option String × Tree)
  | [] => []
  | (key, value) :: members => (some key, toTree value) :: membersToTree members

end

/-- How many arrays and objects may enclose each other in a document that is read. -/
def maxDepth : Nat := 127

/-- The value that a document denotes. -/
def ofText? (text : String) : Option Json := do
  (← Tree.ofText? text).toJson? maxDepth

end Json

end GridStore
