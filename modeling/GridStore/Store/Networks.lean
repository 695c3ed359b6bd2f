import GridStore.Store.Equipment

/-!
# Networks

The calls on the network table. A network is stored in variants, a row each; the row of the
initial variant is the one that lists the network.
-/

namespace GridStore.Store

/-- The rules on a network to store, and the row that it is stored in. -/
def newNetworkRow (fresh : String) (r : Resource Network) : Except ValidationError Row := do
  Validation.resourceId r.id
  Validation.variantNum r.variantNum
  let variantId := r.attributes.effectiveVariantId r.variantNum fresh
  Validation.variantId variantId
  return .ofNetwork variantId r

/-- Stores networks. One without a variant id takes the standard one in the initial variant and a
fresh one elsewhere; `fresh` gives the fresh id for each place in the list. -/
def createNetworks (fresh : Nat → String) (rs : List (Resource Network)) : Call Unit := do
  match rs.zipIdx.mapM fun (r, i) => newNetworkRow (fresh i) r with
  | .error e => .fail (.invalidArgument e)
  | .ok rows =>
    forBatches rows fun batch index => do
      Call.acquire
      batch.forM (insertRow .network)
      .emit (.insertedBatch Kind.network.table index batch.length)

/-- The network in a variant, if there is one. -/
def getNetwork (network : Uuid) (variantNum : Int32) : Call (Option (Resource Network)) := do
  Call.acquire
  let rows ← .query fun ts => ts.select .network (·.isIn network variantNum)
  match rows.head? with
  | some row => return some (← Call.ofExcept (row.toNetwork network variantNum))
  | none => return none

/-- The stored networks in the order of their ids. -/
def listNetworks : Call (List ListedNetwork) := do
  Call.acquire
  let rows ← .query fun ts =>
    ts.select .network fun row => row.variantNum = .ofInt32 initialVariantNum
  (rows.mergeSort fun r s => r.id.le s.id).mapM fun row => .ofExcept row.toListedNetwork

/-- The row of a network with its id and attributes replaced, and its variant id if one is
given. -/
def replaceNetwork (r : Resource Network) (row : Row) : Row :=
  { row with
    id := .text r.id
    variantId :=
      if r.attributes.variantId = "" then row.variantId else some (.text r.attributes.variantId)
    values := Row.ofAttributes r.attributes }

/-- Replaces one network, if it is stored in the variant. -/
def updateNetwork (r : Resource Network) : Call Nat := do
  let updated ← .execute fun ts =>
    ts.update .network (·.isIn r.attributes.uuid r.variantNum) (replaceNetwork r)
  if updated = 0 then
    .emit (.networkUpdateUnmatched r.attributes.uuid r.variantNum)
  return updated

/-- Replaces stored networks and says how many there are. -/
def updateNetworks (rs : List (Resource Network)) : Call Nat := do
  .require (checkResources rs)
  sumBatches rs fun batch _ => do
    Call.acquire
    batch.foldlM (fun total r => do return total + (← updateNetwork r)) 0

/-- The rows of a network by the number of the variant. -/
def variantRows (network : Uuid) : Call (List Row) := do
  let rows ← .query fun ts => ts.select .network (·.isOf network)
  return rows.mergeSort fun r s => r.variantNum.le s.variantNum

/-- The variants of a network by number, on a connection that is taken. -/
def readVariants (network : Uuid) : Call (List Variant) := do
  (← variantRows network).mapM fun row => .ofExcept row.toVariant

/-- The variants of a network by number. -/
def listVariants (network : Uuid) : Call (List Variant) := do
  Call.acquire
  readVariants network

end GridStore.Store
