import GridStore.Attributes.Network
import GridStore.Validation

/-!
# Variants

A network is stored in variants, each with a number and an id of its own. What a store lists are
the variants of a network and the networks themselves. A variant that is given no id takes the
standard one if it is the initial variant; otherwise it takes a fresh id, which is passed in.
-/

namespace GridStore

/-- A variant of a network. -/
structure Variant where
  id : String
  num : Int32
deriving DecidableEq, Repr, Inhabited

namespace Variant

/-- The members of variants' objects. -/
def members : List (Member Variant) :=
  [.required "id" .string (·.id) fun v a => { a with id := v },
   .required "num" .int32 (·.num) fun v a => { a with num := v }]

instance : JsonValue Variant := ⟨.record members default⟩

/-- The id of a variant that is given none. -/
def defaultId (n : Int32) (fresh : String) : String :=
  if n = initialVariantNum then initialVariantId else fresh

end Variant

/-- The id under which a network is stored in a variant. -/
def Network.effectiveVariantId (a : Network) (n : Int32) (fresh : String) : String :=
  if a.variantId = "" then Variant.defaultId n fresh else a.variantId

/-- A stored network. -/
structure ListedNetwork where
  uuid : Uuid
  id : String
deriving DecidableEq, Repr, Inhabited

namespace ListedNetwork

/-- The members of listed networks' objects. -/
def members : List (Member ListedNetwork) :=
  [.required "uuid" .uuid (·.uuid) fun v a => { a with uuid := v },
   .required "id" .string (·.id) fun v a => { a with id := v }]

instance : JsonValue ListedNetwork := ⟨.record members default⟩

end ListedNetwork

end GridStore
