import GridStore.Seed.Sample
import GridStore.Store.Networks
import GridStore.Store.Variants

/-!
# Filling a store with the sample

The sample network is stored in the initial variant, copied to a variant for studies, and counted
in both.
-/

namespace GridStore.Sample

/-- Stores the sample with a number of substations. -/
def create (count : Nat) (uuid : Uuid) (caseDate : Timestamp) : Call Unit := do
  Store.createNetworks (fun _ => "") [network uuid caseDate]
  Store.create uuid (substations count)
  Store.create uuid (voltageLevels count)
  Store.create uuid (busbarSections count)
  Store.create uuid (breakers count)
  Store.create uuid (transformers count)
  Store.create uuid (generators count)
  Store.create uuid (loads count)
  Store.create uuid (lines count)

/-- The variant for studies. -/
def study : Variant :=
  { id := "study", num := 1 }

/-- Copies the initial variant to the one for studies, and says how many rows were copied. -/
def cloneToStudy (uuid : Uuid) : Call Nat :=
  Store.cloneVariant uuid initialVariantNum study.num (some study.id) ""

/-- How many resources of a type a variant has. -/
def count (A : Type) [Attributes A] (uuid : Uuid) (variantNum : Int32) : Call Nat := do
  return (← Store.getAll A uuid variantNum).length

/-- The lines on a variant: what it has of each of the main kinds. -/
def variantLines (uuid : Uuid) (v : Variant) : Call (List String) := do
  let substations ← count Substation uuid v.num
  let voltageLevels ← count VoltageLevel uuid v.num
  let generators ← count Generator uuid v.num
  let loads ← count Load uuid v.num
  let lines ← count Line uuid v.num
  let transformers ← count TwoWindingsTransformer uuid v.num
  return [
    s!"Variant {v.num.toInt} ({v.id}):",
    s!"  substations: {substations}",
    s!"  voltage levels: {voltageLevels}",
    s!"  generators: {generators}",
    s!"  loads: {loads}",
    s!"  lines: {lines}",
    s!"  transformers: {transformers}"]

/-- The lines on all variants. -/
def report (uuid : Uuid) : Call (List String) := do
  let variants ← Store.listVariants uuid
  return (← variants.mapM (variantLines uuid)).flatten

end GridStore.Sample
