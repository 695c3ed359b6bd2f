import GridStore.Store.Networks

/-!
# Writes that span all tables

Deleting a network or a variant and copying them touch the network table and then every equipment
table, one statement a table. There is no transaction around the statements: what stands before a
statement that fails stays, and an event says which steps are done. Deleting can be repeated;
before a copy is repeated its target has to be deleted.
-/

namespace GridStore.Store

/-- One statement of a write that spans all tables. -/
structure Step where
  kind : Kind
  /-- The variant that the statement is about, where a write visits several. -/
  variantNum : Option Int32
  run : Tables → Except StoreError (Tables × Nat)
  /-- What is reported when the statement is done, given how many rows it wrote. -/
  report : Nat → List Event

/-- The name of a step: its table, and the variant where there are several. -/
def Step.name (s : Step) : String :=
  match s.variantNum with
  | some n => s.kind.table ++ "#" ++ Event.numText n
  | none => s.kind.table

/-- Runs steps in order and sums up the rows written. A step that fails ends the call and is
reported with the names of those done before it. -/
def runSteps (operation : Operation) (network : Uuid) (completed : List String) (rows : Nat) :
    List Step → Call Nat
  | [] => return rows
  | step :: steps => fun s =>
    match step.run s.tables with
    | .error e =>
      { store := s
        events := [.writeStopped operation network step.name completed e]
        result := .error e }
    | .ok (tables, n) =>
      Call.andThen ((step.report n).forM Call.emit)
        (fun () => runSteps operation network (completed ++ [step.name]) (rows + n) steps)
        { s with tables }

/-! ## Deleting -/

/-- Deletes the rows of a network from each table. -/
def deleteNetworkSteps (network : Uuid) : List Step :=
  Kind.all.map fun k =>
    { kind := k
      variantNum := none
      run := fun ts => ts.delete k (·.isOf network)
      report := fun _ => [] }

/-- Deletes a network and says how many rows it had. -/
def deleteNetwork (network : Uuid) : Call Nat := do
  Call.acquire
  let deleted ← runSteps .delete network [] 0 (deleteNetworkSteps network)
  .emit (.networkDeleted network deleted)
  return deleted

/-- Deletes the rows of a variant from each table. -/
def deleteVariantSteps (network : Uuid) (variantNum : Int32) : List Step :=
  Kind.all.map fun k =>
    { kind := k
      variantNum := none
      run := fun ts => ts.delete k (·.isIn network variantNum)
      report := fun _ => [] }

/-- Deletes a variant other than the initial one and says how many rows it had. -/
def deleteVariant (network : Uuid) (variantNum : Int32) : Call Nat := do
  .require (Validation.deletableVariant network.text variantNum)
  Call.acquire
  let deleted ← runSteps .deleteVariant network [] 0 (deleteVariantSteps network variantNum)
  .emit (.variantDeleted network variantNum deleted)
  return deleted

/-! ## Copying a variant -/

/-- What is reported of a copied table. -/
def cloneReport (network : Uuid) (source : Int32) : Kind → Nat → List Event
  | .network, rows => if rows = 0 then [.sourceVariantMissing network source] else []
  | .equipment k, rows => [.clonedTable k.table rows]

/-- Copies the rows of a variant to another number in each table. -/
def cloneVariantSteps (network : Uuid) (source target : Int32) (variantId : String) : List Step :=
  Kind.all.map fun k =>
    { kind := k
      variantNum := none
      run := fun ts => ts.copy k (·.isIn network source) (·.toVariantNum target variantId)
      report := cloneReport network source k }

/-- The id of a copied variant, which is checked if it is given. -/
def targetVariantId (target : Int32) (variantId : Option String) (fresh : String) :
    Except ValidationError String :=
  match variantId with
  | some id => do
    Validation.variantId id
    return id
  | none => return Variant.defaultId target fresh

/-- Copies a variant of a network to another number, under an id that is given or that the number
stands for, and says how many rows were copied. -/
def cloneVariant (network : Uuid) (source target : Int32) (variantId : Option String)
    (fresh : String) : Call Nat := do
  .require (Validation.cloneVariant source target)
  match targetVariantId target variantId fresh with
  | .error e => .fail (.invalidArgument e)
  | .ok id => do
    Call.acquire
    let copied ← runSteps .cloneVariant network [] 0 (cloneVariantSteps network source target id)
    .emit (.variantCloned network source target id copied)
    return copied

/-! ## Copying variants to another network -/

/-- Copies the rows of a variant to another network in each table. -/
def cloneIntoNetworkSteps (target source : Uuid) (variant : Variant) : List Step :=
  Kind.all.map fun k =>
    { kind := k
      variantNum := some variant.num
      run := fun ts => ts.copy k (·.isIn source variant.num) (·.toOtherNetwork target)
      report := fun _ =>
        if some k = Kind.all.getLast? then [.variantClonedIntoNetwork variant] else [] }

/-- Copies the variants with the given ids to another network, each under its number and id, and
says how many rows were copied. -/
def cloneNetwork (target source : Uuid) (variantIds : List String) : Call Nat := do
  .require (Validation.cloneNetwork target.text source.text variantIds)
  Call.acquire
  let variants ← readVariants source
  match variantIds.find? fun id => ¬ variants.any (·.id = id) with
  | some missing => .fail (.notFound "Variant" missing)
  | none => do
    let selected := variants.filter (·.id ∈ variantIds)
    let copied ← runSteps .cloneNetwork target [] 0
      (selected.flatMap (cloneIntoNetworkSteps target source))
    .emit (.networkCloned source target variantIds.length copied)
    return copied

end GridStore.Store
