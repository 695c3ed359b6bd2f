import GridStore.Text.Blank

/-!
# Rules on arguments

What the arguments of a call have to satisfy before anything is read or written. An id is neither
blank nor longer than 255 characters, a variant number is not negative, the initial variant is
never deleted, and a copy differs from what it is copied from.
-/

namespace GridStore

/-- The number of the initial variant, which every network keeps. -/
def initialVariantNum : Int32 := 0

/-- The id of the initial variant where none is given. -/
def initialVariantId : String := "InitialState"

/-- The greatest length of an id, in characters. -/
def maxIdLength : Nat := 255

/-- Which rule an argument breaks. -/
inductive ValidationError where
  | initialVariantNotDeletable (network : String)
  | required (field : String)
  | outOfRange (field : String) (min max value : Int)
  | sameAsSource (field : String) (value : String)
  | tooLong (field : String) (max : Nat)
deriving DecidableEq, Repr

/-- The name of the error for programs. -/
def ValidationError.code : ValidationError → String
  | initialVariantNotDeletable _ => "InitialVariantNotDeletable"
  | required _ => "Required"
  | outOfRange .. => "OutOfRange"
  | sameAsSource .. => "SameAsSource"
  | tooLong .. => "TooLong"

/-- The wording of the error. -/
def ValidationError.message : ValidationError → String
  | initialVariantNotDeletable network =>
    s!"the initial variant (variantNum 0) of network {network} cannot be deleted"
  | required field => s!"{field} is required"
  | outOfRange field min max value => s!"{field} must be between {min} and {max}, got {value}"
  | sameAsSource field value => s!"{field} must differ from its source ({value})"
  | tooLong field max => s!"{field} must be at most {max} characters"

namespace Validation

/-- An id is given and not too long. -/
def identifier (field value : String) : Except ValidationError Unit :=
  if value.toList.all isBlank then .error (.required field)
  else if maxIdLength < value.toList.length then .error (.tooLong field maxIdLength)
  else .ok ()

/-- The id of a variant. -/
def variantId (value : String) : Except ValidationError Unit :=
  identifier "variantId" value

/-- The id of a resource. -/
def resourceId (value : String) : Except ValidationError Unit :=
  identifier "id" value

/-- The number of a variant is not negative. -/
def variantNum (n : Int32) : Except ValidationError Unit :=
  if n < initialVariantNum then
    .error (.outOfRange "variantNum" initialVariantNum.toInt Int32.maxValue.toInt n.toInt)
  else .ok ()

/-- A variant to delete is not the initial one. -/
def deletableVariant (network : String) (n : Int32) : Except ValidationError Unit := do
  variantNum n
  if n = initialVariantNum then throw (.initialVariantNotDeletable network)

/-- A variant is copied to another number. -/
def cloneVariant (source target : Int32) : Except ValidationError Unit := do
  variantNum source
  variantNum target
  if source = target then throw (.sameAsSource "targetVariantNum" (toString target.toInt))

/-- Variants are copied to another network, and at least one is named. -/
def cloneNetwork (target source : String) (variantIds : List String) :
    Except ValidationError Unit := do
  if target = source then throw (.sameAsSource "targetNetworkUuid" target)
  if variantIds.isEmpty then throw (.required "targetVariantIds")
  variantIds.forM variantId

/-- A batch holds at least one row. -/
def batchSize (size : Nat) : Except ValidationError Unit :=
  if size = 0 then .error (.outOfRange "batchSize" 1 Int64.maxValue.toInt 0) else .ok ()

end Validation

end GridStore
