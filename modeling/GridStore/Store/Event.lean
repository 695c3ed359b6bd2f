import GridStore.Log
import GridStore.Store.Error
import GridStore.Variant

/-!
# Events

What a store reports while it works, and the log line of each event. Fields are written as text.
-/

namespace GridStore

/-- The writes that span all tables. -/
inductive Operation where
  | delete
  | deleteVariant
  | cloneVariant
  | cloneNetwork
deriving DecidableEq, Repr

/-- The name of an operation in the log. -/
def Operation.name : Operation → String
  | delete => "delete"
  | deleteVariant => "delete_variant"
  | cloneVariant => "clone_variant"
  | cloneNetwork => "clone_network"

/-- What a store reports. -/
inductive Event where
  | opening (path : String) (batchSize : Nat)
  | poolReady (maxConnections : Nat)
  | schemaUpToDate (migrations : Nat)
  | prepared (table : String) (shape : Sql.Shape)
  | statementsBuilt (tables statements : Nat)
  | closing
  | insertedBatch (table : String) (batch rows : Nat)
  | updatedBatch (table : String) (batch rows : Nat)
  /-- An equipment to update is not stored, or its container changed. -/
  | updateUnmatched (table id : String) (variantNum : Int32)
  /-- A network to update is not stored in the variant. -/
  | networkUpdateUnmatched (network : Uuid) (variantNum : Int32)
  | selectedVariant (table : String) (rows : Nat)
  | selectedByContainer (table container : String) (rows : Nat)
  | deletedResource (table id : String) (variantNum : Int32)
  /-- A variant to copy has no row in the network table. -/
  | sourceVariantMissing (network : Uuid) (source : Int32)
  | clonedTable (table : String) (rows : Nat)
  | variantCloned (network : Uuid) (source target : Int32) (variantId : String) (rows : Nat)
  | variantDeleted (network : Uuid) (variantNum : Int32) (rows : Nat)
  | networkDeleted (network : Uuid) (rows : Nat)
  | variantClonedIntoNetwork (variant : Variant)
  | networkCloned (source target : Uuid) (variants rows : Nat)
  /-- A write that spans all tables stopped at a step, with the steps before it done. -/
  | writeStopped (operation : Operation) (network : Uuid) (failed : String)
      (completed : List String) (cause : StoreError)
deriving DecidableEq, Repr

namespace Event

/-- The text of a variant number. -/
def numText (n : Int32) : String :=
  toString n.toInt

/-- Quoted texts between brackets. -/
def quotedTexts (texts : List String) : String :=
  "[" ++ ", ".intercalate (texts.map fun s => "\"" ++ s ++ "\"") ++ "]"

/-- The log line of an event. -/
def line : Event → LogLine
  | opening path batchSize =>
    ⟨.info, "Opening network store", [("path", path), ("batch_size", toString batchSize)]⟩
  | poolReady maxConnections =>
    ⟨.debug, "Pool ready", [("max_connections", toString maxConnections)]⟩
  | schemaUpToDate migrations =>
    ⟨.info, "Schema up to date", [("migrations", toString migrations)]⟩
  | prepared table shape =>
    ⟨.debug, "Prepared statement", [("table", table), ("statement", shape.name)]⟩
  | statementsBuilt tables statements =>
    ⟨.info, "Prepared statement cache built",
      [("tables", toString tables), ("statements", toString statements)]⟩
  | closing => ⟨.info, "Closing network store", []⟩
  | insertedBatch table batch rows =>
    ⟨.debug, "Inserted batch",
      [("table", table), ("batch", toString batch), ("rows", toString rows)]⟩
  | updatedBatch table batch rows =>
    ⟨.debug, "Updated batch",
      [("table", table), ("batch", toString batch), ("rows", toString rows)]⟩
  | updateUnmatched table id variantNum =>
    ⟨.warn, "Update matched no row",
      [("table", table), ("id", id), ("variant_num", numText variantNum)]⟩
  | networkUpdateUnmatched network variantNum =>
    ⟨.warn, "Network update matched no row",
      [("network", network.text), ("variant_num", numText variantNum)]⟩
  | selectedVariant table rows =>
    ⟨.debug, "Selected variant", [("table", table), ("rows", toString rows)]⟩
  | selectedByContainer table container rows =>
    ⟨.debug, "Selected by container",
      [("table", table), ("container", container), ("rows", toString rows)]⟩
  | deletedResource table id variantNum =>
    ⟨.debug, "Deleted resource",
      [("table", table), ("id", id), ("variant_num", numText variantNum)]⟩
  | sourceVariantMissing network source =>
    ⟨.warn, "Source variant has no network row",
      [("network", network.text), ("source_variant_num", numText source)]⟩
  | clonedTable table rows =>
    ⟨.debug, "Cloned table", [("table", table), ("rows", toString rows)]⟩
  | variantCloned network source target variantId rows =>
    ⟨.info, "Variant cloned",
      [("network", network.text), ("source_variant_num", numText source),
       ("target_variant_num", numText target), ("variant_id", variantId),
       ("rows", toString rows)]⟩
  | variantDeleted network variantNum rows =>
    ⟨.info, "Variant deleted",
      [("network", network.text), ("variant_num", numText variantNum), ("rows", toString rows)]⟩
  | networkDeleted network rows =>
    ⟨.info, "Network deleted", [("network", network.text), ("rows", toString rows)]⟩
  | variantClonedIntoNetwork variant =>
    ⟨.debug, "Cloned variant into network",
      [("variant", variant.id), ("num", numText variant.num)]⟩
  | networkCloned source target variants rows =>
    ⟨.info, "Network cloned",
      [("source", source.text), ("target", target.text), ("variants", toString variants),
       ("rows", toString rows)]⟩
  | writeStopped operation network failed completed cause =>
    ⟨.error, "Multi-table write stopped part way",
      [("operation", operation.name), ("network", network.text), ("failed", failed),
       ("completed", quotedTexts completed), ("error", cause.message)]⟩

end Event

end GridStore
