import GridStore.Attributes.Values
import GridStore.Mapping.Basic

/-!
# Networks

The attributes of a network in one of its variants. The uuid and the id of the variant are part of
the key of its row and are not mapped.
-/

namespace GridStore

/-- The attributes of a network. -/
structure Network where
  uuid : Uuid
  variantId : String
  fictitious : Bool
  properties : Properties
  sourceFormat : String
  caseDate : Timestamp
  forecastDistance : Int32
  connectedComponentsValid : Bool
  synchronousComponentsValid : Bool
  cgmesSvMetadata : Option CgmesSvMetadata
  cgmesSshMetadata : Option CgmesSshMetadata
  cimCharacteristics : Option CimCharacteristics
deriving BEq, Inhabited

namespace Network

/-- The members that no mapped column holds. -/
def keys : List (Member Network) :=
  [.required "uuid" JsonValue.codec (·.uuid) fun v a => { a with uuid := v },
   .defaulted "variantId" JsonValue.codec default (·.variantId)
     fun v a => { a with variantId := v }]

/-- The origin, the state and the metadata of a network. -/
def own : List (Field Network) :=
  [.defaulted "fictitious" default (·.fictitious) fun v a => { a with fictitious := v },
   .defaulted "properties" default (·.properties) fun v a => { a with properties := v },
   .required "sourceFormat" (·.sourceFormat) fun v a => { a with sourceFormat := v },
   .required "caseDate" (·.caseDate) fun v a => { a with caseDate := v },
   .defaulted "forecastDistance" default (·.forecastDistance)
     fun v a => { a with forecastDistance := v },
   .defaulted "connectedComponentsValid" default (·.connectedComponentsValid)
     fun v a => { a with connectedComponentsValid := v },
   .defaulted "synchronousComponentsValid" default (·.synchronousComponentsValid)
     fun v a => { a with synchronousComponentsValid := v },
   .optional "cgmesSvMetadata" (·.cgmesSvMetadata) fun v a => { a with cgmesSvMetadata := v },
   .optional "cgmesSshMetadata" (·.cgmesSshMetadata) fun v a => { a with cgmesSshMetadata := v },
   .optional "cimCharacteristics" (·.cimCharacteristics)
     fun v a => { a with cimCharacteristics := v }]

/-- The columns. -/
def mapping : Mapping Network where
  kind := .network
  fields := own
  containers := []
  updateKey := none

/-- The members of objects. -/
def members : List (Member Network) :=
  keys ++ own.map (·.toMember)

end Network

end GridStore
