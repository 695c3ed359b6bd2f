import GridStore.Attributes.Basic

/-!
# Resources

A resource is what is stored: an id, the number of the variant that it belongs to, and attributes.
The network is not part of it; every call names the network that it is about.
-/

namespace GridStore

/-- A resource with attributes of a type. -/
structure Resource (A : Type) where
  /-- The kind that the resource is labelled with. -/
  kind : Kind
  id : String
  variantNum : Int32
  attributes : A
deriving BEq, Inhabited

namespace Resource

variable {A : Type} [Attributes A]

/-- The resource with an id in a variant, labelled with the kind of its attributes. -/
def of (id : String) (variantNum : Int32) (attributes : A) : Resource A :=
  { kind := Attributes.kind A, id, variantNum, attributes }

/-- The same resource in another variant. -/
def withVariant (n : Int32) (r : Resource A) : Resource A :=
  { r with variantNum := n }

/-- The members of resources' objects. -/
def members : List (Member (Resource A)) :=
  [.required "type" .choice (·.kind) fun v r => { r with kind := v },
   .required "id" .string (·.id) fun v r => { r with id := v },
   .required "variantNum" .int32 (·.variantNum) fun v r => { r with variantNum := v },
   .required "attributes" Attributes.codec (·.attributes) fun v r => { r with attributes := v }]

/-- How resources are written as JSON. -/
def codec : JsonCodec (Resource A) :=
  .record members ⟨.network, "", 0, default⟩

end Resource

/-- An equipment of any kind. -/
structure Identifiable where
  kind : EquipmentKind
  resource : Resource kind.Attributes

namespace Identifiable

/-- The id of the equipment. -/
def id (x : Identifiable) : String :=
  x.resource.id

/-- The number of the variant that the equipment belongs to. -/
def variantNum (x : Identifiable) : Int32 :=
  x.resource.variantNum

/-- The kind that the equipment is labelled with. -/
def label (x : Identifiable) : Kind :=
  x.resource.kind

/-- The equipment as JSON. -/
def toJson (x : Identifiable) : Json :=
  Resource.codec.encode x.resource

end Identifiable

end GridStore
