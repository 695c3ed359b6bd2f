import GridStore.Choice
import GridStore.Json.Tree
import GridStore.Properties
import GridStore.Timestamp.Text
import GridStore.Uuid

/-!
# JSON codecs

How a value is written as JSON and read from a document. A reader is given a part of a document
and how many arrays and objects may still open below it, and looks only at what it needs: members
of an object that it does not know are skipped whatever they hold.

Numbers are written in two ways. A plain double beyond the finite ones is written as null, which
no reader of numbers takes; `lossless` writes it as a word.
-/

namespace GridStore

/-- How values are written and read. -/
structure JsonCodec (α : Type) where
  encode : α → Json
  decode : (room : Nat) → Tree → Option α

/-- A type with a way of writing it as JSON. -/
class JsonValue (α : Type) where
  codec : JsonCodec α

namespace JsonCodec

variable {α : Type}

/-- Reads a value. -/
def ofJson? (c : JsonCodec α) (v : Json) : Option α :=
  c.decode v.depth v.toTree

/-- Reads a document. -/
def ofText? (c : JsonCodec α) (text : String) : Option α := do
  c.decode Json.maxDepth (← Tree.ofText? text)

/-! ## Scalars -/

/-- Truth values. -/
def bool : JsonCodec Bool where
  encode := .bool
  decode
    | _, .bool b => some b
    | _, _ => none

/-- Texts. -/
def string : JsonCodec String where
  encode := .str
  decode
    | _, .str s => s
    | _, _ => none

/-- The whole number of a numeral that has one. -/
def wholeNumber? : Tree → Option Int
  | .num (some (.int n)) => some n
  | _ => none

/-- Whole numbers of 32 bits. -/
def int32 : JsonCodec Int32 where
  encode n := .int n.toInt
  decode _ t := do
    let n ← wholeNumber? t
    if Int32.minValue.toInt ≤ n ∧ n ≤ Int32.maxValue.toInt then some (.ofInt n) else none

/-- Whole numbers of 64 bits. -/
def int64 : JsonCodec Int64 where
  encode n := .int n.toInt
  decode _ t := do
    let n ← wholeNumber? t
    if Int64.minValue.toInt ≤ n ∧ n ≤ Int64.maxValue.toInt then some (.ofInt n) else none

/-- Doubles; one beyond the finite ones is written as null. -/
def double : JsonCodec Binary64 where
  encode x := if x.isFinite then .float x else .null
  decode
    | _, .num n => n.map Number.toBinary64
    | _, _ => none

/-- Timestamps. -/
def timestamp : JsonCodec Timestamp where
  encode t := .str t.writeZ
  decode
    | _, .str s => s.bind Timestamp.readLoose?
    | _, _ => none

/-- Uuids. -/
def uuid : JsonCodec Uuid where
  encode u := .str u.text
  decode
    | _, .str s => s.bind Uuid.read?
    | _, _ => none

/-- Choices: the label, or an object with the label as its only key and null as its value. -/
def choice [Choice α] : JsonCodec α where
  encode a := .str (Choice.label a)
  decode
    | _, .str s => s.bind Choice.ofLabel?
    | _ + 1, .obj [(s, .null)] => s.bind Choice.ofLabel?
    | _, _ => none

end JsonCodec

/-! ## Words for the doubles beyond the finite ones -/

/-- The word for a double that is not finite. -/
def Binary64.nonFiniteText? : Binary64 → Option String
  | .nan => some "NaN"
  | .infinite false => some "Infinity"
  | .infinite true => some "-Infinity"
  | .finite .. => none

/-- The double that a word stands for. -/
def Binary64.ofNonFiniteText? (word : String) : Option Binary64 :=
  if word = "NaN" then some .nan
  else if word = "Infinity" then some (.infinite false)
  else if word = "-Infinity" then some (.infinite true)
  else none

namespace JsonCodec

variable {α : Type}

/-- Doubles; one beyond the finite ones is written as a word. -/
def lossless : JsonCodec Binary64 where
  encode x :=
    match x.nonFiniteText? with
    | some word => .str word
    | none => .float x
  decode
    | _, .num n => n.map Number.toBinary64
    | _, .str s => s.bind Binary64.ofNonFiniteText?
    | _, _ => none

/-! ## Collections -/

/-- Lists. -/
def list (c : JsonCodec α) : JsonCodec (List α) where
  encode as := .arr (as.map c.encode)
  decode
    | room + 1, .arr items => items.mapM (c.decode room)
    | _, _ => none

/-- Optional values, null where there is none. -/
def nullable (c : JsonCodec α) : JsonCodec (Option α) where
  encode
    | some a => c.encode a
    | none => .null
  decode
    | _, .null => some none
    | room, t => (c.decode room t).map some

/-- An entry of properties. -/
def property? (room : Nat) : Option String × Tree → Option (String × String)
  | (key, value) => do
    let key ← key
    let value ← string.decode room value
    some (key, value)

/-- Properties: texts under names, the last of several under one name. -/
def properties : JsonCodec Properties where
  encode p := .obj (p.entries.map fun (key, value) => (key, .str value))
  decode
    | room + 1, .obj members => (members.mapM (property? room)).map Properties.ofList
    | _, _ => none

end JsonCodec

instance : JsonValue Bool := ⟨.bool⟩
instance : JsonValue String := ⟨.string⟩
instance : JsonValue Int32 := ⟨.int32⟩
instance : JsonValue Int64 := ⟨.int64⟩
instance : JsonValue Binary64 := ⟨.double⟩
instance : JsonValue Timestamp := ⟨.timestamp⟩
instance : JsonValue Uuid := ⟨.uuid⟩
instance : JsonValue Properties := ⟨.properties⟩
instance {α : Type} [Choice α] : JsonValue α := ⟨.choice⟩
instance {α : Type} [JsonValue α] : JsonValue (List α) := ⟨.list JsonValue.codec⟩
instance {α : Type} [JsonValue α] : JsonValue (Option α) := ⟨.nullable JsonValue.codec⟩

end GridStore
