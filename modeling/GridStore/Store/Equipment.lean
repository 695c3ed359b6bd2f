import GridStore.Store.Call

/-!
# Equipment

The calls on the table of one kind of equipment. Writes check all arguments before they write
anything, and then write row by row, in batches that take a connection each.
-/

namespace GridStore.Store

/-- A one-line description of the calls on equipment, the same for every kind. -/
def describe (s : Store) : String :=
  s!"EquipmentRepository \x7b batch_size: {s.batchSize} \x7d"

variable {A : Type} [Attributes A]

/-- The rules on resources to write. -/
def checkResources (rs : List (Resource A)) : Except ValidationError Unit :=
  rs.forM fun r => do
    Validation.resourceId r.id
    Validation.variantNum r.variantNum

/-- Does something for each batch of items and its number. -/
def forBatches {α : Type} (items : List α) (f : List α → Nat → Call Unit) : Call Unit := do
  let size ← Call.view Store.batchSize
  (batches size items).zipIdx.forM fun (batch, index) => f batch index

/-- Does something for each batch of items and its number, and sums up the answers. -/
def sumBatches {α : Type} (items : List α) (f : List α → Nat → Call Nat) : Call Nat := do
  let size ← Call.view Store.batchSize
  (batches size items).zipIdx.foldlM (fun total (batch, index) => do
    return total + (← f batch index)) 0

/-- Inserts a row. -/
def insertRow (k : Kind) (row : Row) : Call Unit :=
  .execute fun ts => do return (← ts.insert k row, ())

/-- Stores resources of a network. -/
def create (network : Uuid) (rs : List (Resource A)) : Call Unit := do
  .require (checkResources rs)
  let k := Attributes.kind A
  forBatches (rs.map (Row.ofEquipment network)) fun rows index => do
    Call.acquire
    rows.forM (insertRow k)
    .emit (.insertedBatch k.table index rows.length)

/-- The row of an equipment. -/
def findRow (k : Kind) (network : Uuid) (variantNum : Int32) (id : String) : Call (Option Row) :=
  .query fun ts => do return (← ts.select k (·.isAt network variantNum id)).head?

/-- An equipment, looked up in the table of its kind. -/
def lookup (A : Type) [Attributes A] (network : Uuid) (variantNum : Int32) (id : String) :
    Call (Option (Resource A)) := do
  match ← findRow (Attributes.kind A) network variantNum id with
  | some row => return some (← Call.ofExcept (row.toEquipment A variantNum))
  | none => return none

/-- The resource with an id in a variant of a network, if there is one. -/
def getOne (A : Type) [Attributes A] (network : Uuid) (variantNum : Int32) (id : String) :
    Call (Option (Resource A)) := do
  Call.acquire
  lookup A network variantNum id

/-- The resources in a variant of a network. -/
def getAll (A : Type) [Attributes A] (network : Uuid) (variantNum : Int32) :
    Call (List (Resource A)) := do
  let k := Attributes.kind A
  Call.acquire
  let rows ← .query fun ts => ts.select k (·.isIn network variantNum)
  .emit (.selectedVariant k.table rows.length)
  rows.mapM fun row => .ofExcept (row.toEquipment A variantNum)

/-- The resources without those whose id is seen already, before the list or in it. -/
def distinctById (seen : List String) : List (Resource A) → List (Resource A)
  | [] => []
  | r :: rs =>
    if r.id ∈ seen then distinctById seen rs else r :: distinctById (r.id :: seen) rs

/-- The resources in a variant of a network that a container holds at one of their sides, each
once. Some kinds have no container. -/
def getByContainer (A : Type) [Attributes A] (network : Uuid) (variantNum : Int32)
    (container : String) : Call (List (Resource A)) := do
  let k := Attributes.kind A
  let _ ← Call.statement k .selectByContainer
  Call.acquire
  let rows ← .query fun ts => ts.select k fun row =>
    row.isIn network variantNum && row.isAttached (Attributes.schema A) container
  let found ← rows.mapM fun row => .ofExcept (row.toEquipment A variantNum)
  let resources := distinctById [] found
  .emit (.selectedByContainer k.table container resources.length)
  return resources

/-- Replaces the attributes of one resource, if its row is there and still in its container. -/
def updateRow (network : Uuid) (r : Resource A) : Call Nat := do
  let s := Attributes.schema A
  let assigned := Row.ofAttributes r.attributes
  let updated ← .execute fun ts =>
    ts.update s.kind
      (fun row => row.isAt network r.variantNum r.id && row.matchesKey s assigned)
      (·.assign s assigned)
  if updated = 0 then
    .emit (.updateUnmatched s.table r.id r.variantNum)
  return updated

/-- Replaces the attributes of stored resources and says how many there are. -/
def update (network : Uuid) (rs : List (Resource A)) : Call Nat := do
  .require (checkResources rs)
  sumBatches rs fun batch index => do
    Call.acquire
    let updated ← batch.foldlM (fun total r => do return total + (← updateRow network r)) 0
    .emit (.updatedBatch (Attributes.kind A).table index batch.length)
    return updated

/-- Removes a resource and says how many rows it had. -/
def delete (A : Type) [Attributes A] (network : Uuid) (variantNum : Int32) (id : String) :
    Call Nat := do
  let k := Attributes.kind A
  Call.acquire
  let deleted ← .execute fun ts => ts.delete k (·.isAt network variantNum id)
  .emit (.deletedResource k.table id variantNum)
  return deleted

/-- The equipment with an id, of the first of the given kinds that has one. -/
def findIdentifiable (network : Uuid) (variantNum : Int32) (id : String) :
    List EquipmentKind → Call (Option Identifiable)
  | [] => return none
  | k :: kinds => do
    match ← lookup k.Attributes network variantNum id with
    | some r => return some ⟨k, r⟩
    | none => findIdentifiable network variantNum id kinds

/-- The equipment with an id in a variant of a network, of the first kind that has one. -/
def getIdentifiable (network : Uuid) (variantNum : Int32) (id : String) :
    Call (Option Identifiable) := do
  Call.acquire
  findIdentifiable network variantNum id EquipmentKind.all

end GridStore.Store
