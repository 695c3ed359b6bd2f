import GridStore.Attributes.Shared

/-!
# Substations and voltage levels

What other equipment is contained in.
-/

namespace GridStore

/-- The attributes of a substation. -/
structure Substation extends Identification where
  country : Option String
  tso : Option String
  geographicalTags : List String
  entsoeArea : Option String
deriving BEq, Inhabited

namespace Substation

/-- The name, the properties and whether the equipment is a fictitious one. -/
def identification : List (Field Substation) :=
  Identification.fields.map
    (·.within (·.toIdentification) fun v a => { a with toIdentification := v })

/-- What is known of a substation. -/
def own : List (Field Substation) :=
  [.optional "country" (·.country) fun v a => { a with country := v },
   .optional "tso" (·.tso) fun v a => { a with tso := v },
   .defaulted "geographicalTags" default (·.geographicalTags)
     fun v a => { a with geographicalTags := v },
   .optional "entsoeArea" (·.entsoeArea) fun v a => { a with entsoeArea := v }]

/-- The columns. -/
def mapping : Mapping Substation where
  kind := .equipment .substation
  fields := identification ++ own
  containers := []
  updateKey := none

/-- The members of objects. -/
def members : List (Member Substation) :=
  (identification ++ own).map (·.toMember)

end Substation

/-- The attributes of a voltage level. -/
structure VoltageLevel extends Identification where
  substationId : String
  nominalV : Binary64
  lowVoltageLimit : Option Binary64
  highVoltageLimit : Option Binary64
  topologyKind : TopologyKind
  internalConnections : List InternalConnection
  slackTerminal : Option TerminalRef
deriving BEq, Inhabited

namespace VoltageLevel

/-- The name, the properties and whether the equipment is a fictitious one. -/
def identification : List (Field VoltageLevel) :=
  Identification.fields.map
    (·.within (·.toIdentification) fun v a => { a with toIdentification := v })

/-- The substation. -/
def container : List (Field VoltageLevel) :=
  [.required "substationId" (·.substationId) fun v a => { a with substationId := v }]

/-- The voltages and the topology of a voltage level. -/
def own : List (Field VoltageLevel) :=
  [.required "nominalV" (·.nominalV) fun v a => { a with nominalV := v },
   .optional "lowVoltageLimit" (·.lowVoltageLimit) fun v a => { a with lowVoltageLimit := v },
   .optional "highVoltageLimit" (·.highVoltageLimit) fun v a => { a with highVoltageLimit := v },
   .defaulted "topologyKind" default (·.topologyKind) fun v a => { a with topologyKind := v },
   .defaulted "internalConnections" default (·.internalConnections)
     fun v a => { a with internalConnections := v },
   .optional "slackTerminal" (·.slackTerminal) fun v a => { a with slackTerminal := v }]

/-- The columns. -/
def mapping : Mapping VoltageLevel where
  kind := .equipment .voltageLevel
  fields := identification ++ container ++ own
  containers := ["substationId"]
  updateKey := some "substationId"

/-- The members of objects. -/
def members : List (Member VoltageLevel) :=
  (container ++ identification ++ own).map (·.toMember)

end VoltageLevel

end GridStore
