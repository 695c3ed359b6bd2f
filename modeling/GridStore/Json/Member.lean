import GridStore.Json.Codec

/-!
# Objects as records

A record is written as an object with a member for each of its fields. A member may be required,
may have a value that it takes when it is missing, or may be optional: then it is left out when
there is no value, and null means none too. A record is also read from an array of its fields in
order, where fields at the end may be missing if they may be missing at all.

A union is written as the object of one of its cases with one member more, which names the case.
Reading one looks at all of the object before the case is known, so everything in it has to denote
something.
-/

namespace GridStore

/-- A field of a record and its member in the record's object. -/
structure Member (A : Type) where
  name : String
  Value : Type
  /-- The value of the member, none where it is left out. -/
  encode : Value → Option Json
  decode : (room : Nat) → Tree → Option Value
  /-- What the field holds when the member is missing, none where it may not be. -/
  absent : Option Value
  get : A → Value
  set : Value → A → A

namespace Member

variable {A α : Type}

/-- A member that has to be there. -/
def required (name : String) (c : JsonCodec α) (get : A → α) (set : α → A → A) : Member A where
  name
  Value := α
  encode a := some (c.encode a)
  decode := c.decode
  absent := none
  get
  set

/-- A member with a value that it takes when it is missing. -/
def defaulted (name : String) (c : JsonCodec α) (default : α) (get : A → α) (set : α → A → A) :
    Member A :=
  { required name c get set with absent := some default }

/-- A member that is left out when there is no value. -/
def optional (name : String) (c : JsonCodec α) (get : A → Option α) (set : Option α → A → A) :
    Member A where
  name
  Value := Option α
  encode a := a.map c.encode
  decode := c.nullable.decode
  absent := some none
  get
  set

/-- The same member of a record that holds this one. -/
def within {B : Type} (get : B → A) (set : A → B → B) (m : Member A) : Member B :=
  { m with
    get := fun b => m.get (get b)
    set := fun v b => set (m.set v (get b)) b }

/-- The member has to be there or is defaulted; its values are what `get` gives, in a codec. -/
inductive Holds (c : JsonCodec α) : Member A → (A → α) → Prop
  | required (name : String) (get : A → α) (set : α → A → A) :
    Holds c (required name c get set) get
  | defaulted (name : String) (default : α) (get : A → α) (set : α → A → A) :
    Holds c (defaulted name c default get set) get

/-- The member may be there; its values are what `get` gives, in a codec. -/
inductive MayHold (c : JsonCodec α) : Member A → (A → Option α) → Prop
  | optional (name : String) (get : A → Option α) (set : Option α → A → A) :
    MayHold c (optional name c get set) get

section Within

variable {B : Type} {m : Member A} {c : JsonCodec α}

theorem Holds.within {get : A → α} (h : m.Holds c get) (getA : B → A) (setA : A → B → B) :
    (m.within getA setA).Holds c fun b => get (getA b) := by
  cases h with
  | required name _ _ => exact .required name _ _
  | defaulted name default _ _ => exact .defaulted name default _ _

theorem MayHold.within {get : A → Option α} (h : m.MayHold c get) (getA : B → A) (setA : A → B → B) :
    (m.within getA setA).MayHold c fun b => get (getA b) := by
  cases h with
  | optional name _ _ => exact .optional name _ _

end Within

/-- What a record's member is written as. -/
def write? (m : Member A) (a : A) : Option (String × Json) :=
  (m.encode (m.get a)).map (m.name, ·)

/-- Reads the member of an object into a record. A member that is written twice is refused. -/
def readNamed? (room : Nat) (entries : List (Option String × Tree)) (a : A) (m : Member A) :
    Option A :=
  match entries.filter fun e => e.1 = some m.name with
  | [] => m.absent.map (m.set · a)
  | [(_, t)] => (m.decode room t).map (m.set · a)
  | _ => none

/-- Reads members in order from items of an array into a record. -/
def readPositional? (room : Nat) : List (Member A) → List Tree → A → Option A
  | [], [], a => some a
  | [], _ :: _, _ => none
  | m :: ms, [], a => do readPositional? room ms [] (m.set (← m.absent) a)
  | m :: ms, t :: ts, a => do readPositional? room ms ts (m.set (← m.decode room t) a)

/-- Reads the members of an object into a record. Every key has to be a text. -/
def readMembers? (room : Nat) (members : List (Member A)) (entries : List (Option String × Tree))
    (a : A) : Option A :=
  if entries.all fun e => e.1.isSome then members.foldlM (readNamed? room entries) a else none

end Member

namespace JsonCodec

variable {A : Type}

/-- Records with the given members, read into a record that holds whatever. -/
def record (members : List (Member A)) (start : A) : JsonCodec A where
  encode a := .ofMembers (members.filterMap (·.write? a))
  decode
    | room + 1, .obj entries => Member.readMembers? room members entries start
    | room + 1, .arr items => Member.readPositional? room members items start
    | _, _ => none

end JsonCodec

/-- A case of a union. -/
structure Case (A : Type) where
  /-- The name of the case. -/
  label : String
  Payload : Type
  members : List (Member Payload)
  start : Payload
  inject : Payload → A
  project : A → Option Payload

namespace Case

variable {A : Type}

/-- The members of a union's object, if it is of this case. -/
def write? (tag : String) (c : Case A) (a : A) : Option Json :=
  (c.project a).map fun payload =>
    .ofMembers ((tag, .str c.label) :: c.members.filterMap (·.write? payload))

/-- Reads the other members of an object whose case is known. -/
def readMembers? (room : Nat) (c : Case A) (entries : List (Option String × Tree)) : Option A :=
  (Member.readMembers? room c.members entries c.start).map c.inject

/-- Reads the other items of an array whose case is known. -/
def readItems? (room : Nat) (c : Case A) (items : List Tree) : Option A :=
  (Member.readPositional? room c.members items c.start).map c.inject

end Case

namespace JsonCodec

variable {A : Type}

/-- Unions of the given cases, named by the member `tag`. -/
def union (tag : String) (cases : List (Case A)) : JsonCodec A where
  encode a := (cases.findSome? (·.write? tag a)).getD .null
  decode room t :=
    match room, t, t.toJson? room with
    | room + 1, .obj entries, some _ =>
      match entries.partition fun e => e.1 = some tag with
      | ([(_, .str (some label))], others) =>
        (cases.find? (·.label = label)).bind fun c => c.readMembers? room others
      | _ => none
    | room + 1, .arr (.str (some label) :: items), some _ =>
      (cases.find? (·.label = label)).bind fun c => c.readItems? room items
    | _, _, _ => none

end JsonCodec

end GridStore
