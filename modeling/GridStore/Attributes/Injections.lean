import GridStore.Attributes.Shared

/-!
# Injections

Equipment with one terminal.
-/

namespace GridStore

/-- The attributes of a generator. -/
structure Generator extends Identification, Connection where
  energySource : EnergySource
  minP : Binary64
  maxP : Binary64
  ratedS : Option Binary64
  voltageRegulatorOn : Bool
  targetP : Binary64
  targetQ : Binary64
  targetV : Option Binary64
  reactiveLimits : Option ReactiveLimits
  activePowerControl : Option ActivePowerControl
  coordinatedReactiveControl : Option CoordinatedReactiveControl
  regulatingTerminal : Option TerminalRef
deriving BEq, Inhabited

namespace Generator

/-- The name, the properties and whether the equipment is a fictitious one. -/
def identification : List (Field Generator) :=
  Identification.fields.map
    (·.within (·.toIdentification) fun v a => { a with toIdentification := v })

/-- The voltage level. -/
def container : List (Field Generator) :=
  Connection.container.map (·.within (·.toConnection) fun v a => { a with toConnection := v })

/-- The terminal. -/
def terminal : List (Field Generator) :=
  Connection.terminal.map (·.within (·.toConnection) fun v a => { a with toConnection := v })

/-- The limits, targets and controls of a generator. -/
def own : List (Field Generator) :=
  [.defaulted "energySource" default (·.energySource) fun v a => { a with energySource := v },
   .required "minP" (·.minP) fun v a => { a with minP := v },
   .required "maxP" (·.maxP) fun v a => { a with maxP := v },
   .optional "ratedS" (·.ratedS) fun v a => { a with ratedS := v },
   .defaulted "voltageRegulatorOn" default (·.voltageRegulatorOn)
     fun v a => { a with voltageRegulatorOn := v },
   .required "targetP" (·.targetP) fun v a => { a with targetP := v },
   .defaulted "targetQ" default (·.targetQ) fun v a => { a with targetQ := v },
   .optional "targetV" (·.targetV) fun v a => { a with targetV := v },
   .optional "reactiveLimits" (·.reactiveLimits) fun v a => { a with reactiveLimits := v },
   .optional "activePowerControl" (·.activePowerControl)
     fun v a => { a with activePowerControl := v },
   .optional "coordinatedReactiveControl" (·.coordinatedReactiveControl)
     fun v a => { a with coordinatedReactiveControl := v },
   .optional "regulatingTerminal" (·.regulatingTerminal)
     fun v a => { a with regulatingTerminal := v }]

/-- The columns. -/
def mapping : Mapping Generator where
  kind := .equipment .generator
  fields := identification ++ container ++ terminal ++ own
  containers := ["voltageLevelId"]
  updateKey := some "voltageLevelId"

/-- The members of objects. -/
def members : List (Member Generator) :=
  (container ++ identification ++ terminal ++ own).map (·.toMember)

end Generator

/-- The attributes of a battery. -/
structure Battery extends Identification, Connection where
  p0 : Binary64
  q0 : Binary64
  minP : Binary64
  maxP : Binary64
  reactiveLimits : Option ReactiveLimits
  activePowerControl : Option ActivePowerControl
deriving BEq, Inhabited

namespace Battery

/-- The name, the properties and whether the equipment is a fictitious one. -/
def identification : List (Field Battery) :=
  Identification.fields.map
    (·.within (·.toIdentification) fun v a => { a with toIdentification := v })

/-- The voltage level. -/
def container : List (Field Battery) :=
  Connection.container.map (·.within (·.toConnection) fun v a => { a with toConnection := v })

/-- The terminal. -/
def terminal : List (Field Battery) :=
  Connection.terminal.map (·.within (·.toConnection) fun v a => { a with toConnection := v })

/-- The powers and limits of a battery. -/
def own : List (Field Battery) :=
  [.required "p0" (·.p0) fun v a => { a with p0 := v },
   .required "q0" (·.q0) fun v a => { a with q0 := v },
   .required "minP" (·.minP) fun v a => { a with minP := v },
   .required "maxP" (·.maxP) fun v a => { a with maxP := v },
   .optional "reactiveLimits" (·.reactiveLimits) fun v a => { a with reactiveLimits := v },
   .optional "activePowerControl" (·.activePowerControl)
     fun v a => { a with activePowerControl := v }]

/-- The columns. -/
def mapping : Mapping Battery where
  kind := .equipment .battery
  fields := identification ++ container ++ terminal ++ own
  containers := ["voltageLevelId"]
  updateKey := some "voltageLevelId"

/-- The members of objects. -/
def members : List (Member Battery) :=
  (container ++ identification ++ terminal ++ own).map (·.toMember)

end Battery

/-- The attributes of a load. -/
structure Load extends Identification, Connection where
  loadType : LoadType
  p0 : Binary64
  q0 : Binary64
deriving BEq, Inhabited

namespace Load

/-- The name, the properties and whether the equipment is a fictitious one. -/
def identification : List (Field Load) :=
  Identification.fields.map
    (·.within (·.toIdentification) fun v a => { a with toIdentification := v })

/-- The voltage level. -/
def container : List (Field Load) :=
  Connection.container.map (·.within (·.toConnection) fun v a => { a with toConnection := v })

/-- The terminal. -/
def terminal : List (Field Load) :=
  Connection.terminal.map (·.within (·.toConnection) fun v a => { a with toConnection := v })

/-- The power that a load takes. -/
def own : List (Field Load) :=
  [.defaulted "loadType" default (·.loadType) fun v a => { a with loadType := v },
   .required "p0" (·.p0) fun v a => { a with p0 := v },
   .required "q0" (·.q0) fun v a => { a with q0 := v }]

/-- The columns. -/
def mapping : Mapping Load where
  kind := .equipment .load
  fields := identification ++ container ++ terminal ++ own
  containers := ["voltageLevelId"]
  updateKey := some "voltageLevelId"

/-- The members of objects. -/
def members : List (Member Load) :=
  (container ++ identification ++ terminal ++ own).map (·.toMember)

end Load

/-- The attributes of a shunt compensator. -/
structure ShuntCompensator extends Identification, Connection where
  sectionCount : Int32
  model : ShuntCompensatorModel
  voltageRegulatorOn : Bool
  targetV : Option Binary64
  targetDeadband : Option Binary64
  regulatingTerminal : Option TerminalRef
deriving BEq, Inhabited

namespace ShuntCompensator

/-- The name, the properties and whether the equipment is a fictitious one. -/
def identification : List (Field ShuntCompensator) :=
  Identification.fields.map
    (·.within (·.toIdentification) fun v a => { a with toIdentification := v })

/-- The voltage level. -/
def container : List (Field ShuntCompensator) :=
  Connection.container.map (·.within (·.toConnection) fun v a => { a with toConnection := v })

/-- The terminal. -/
def terminal : List (Field ShuntCompensator) :=
  Connection.terminal.map (·.within (·.toConnection) fun v a => { a with toConnection := v })

/-- The sections and the control of a shunt compensator. -/
def own : List (Field ShuntCompensator) :=
  [.required "sectionCount" (·.sectionCount) fun v a => { a with sectionCount := v },
   .required "model" (·.model) fun v a => { a with model := v },
   .defaulted "voltageRegulatorOn" default (·.voltageRegulatorOn)
     fun v a => { a with voltageRegulatorOn := v },
   .optional "targetV" (·.targetV) fun v a => { a with targetV := v },
   .optional "targetDeadband" (·.targetDeadband) fun v a => { a with targetDeadband := v },
   .optional "regulatingTerminal" (·.regulatingTerminal)
     fun v a => { a with regulatingTerminal := v }]

/-- The columns. -/
def mapping : Mapping ShuntCompensator where
  kind := .equipment .shuntCompensator
  fields := identification ++ container ++ terminal ++ own
  containers := ["voltageLevelId"]
  updateKey := some "voltageLevelId"

/-- The members of objects. -/
def members : List (Member ShuntCompensator) :=
  (container ++ identification ++ terminal ++ own).map (·.toMember)

end ShuntCompensator

/-- The attributes of a voltage source converter station. -/
structure VscConverterStation extends Identification, Connection where
  lossFactor : Binary64
  voltageRegulatorOn : Bool
  reactivePowerSetpoint : Option Binary64
  voltageSetpoint : Option Binary64
  reactiveLimits : Option ReactiveLimits
deriving BEq, Inhabited

namespace VscConverterStation

/-- The name, the properties and whether the equipment is a fictitious one. -/
def identification : List (Field VscConverterStation) :=
  Identification.fields.map
    (·.within (·.toIdentification) fun v a => { a with toIdentification := v })

/-- The voltage level. -/
def container : List (Field VscConverterStation) :=
  Connection.container.map (·.within (·.toConnection) fun v a => { a with toConnection := v })

/-- The terminal. -/
def terminal : List (Field VscConverterStation) :=
  Connection.terminal.map (·.within (·.toConnection) fun v a => { a with toConnection := v })

/-- The losses and the control of a converter station. -/
def own : List (Field VscConverterStation) :=
  [.required "lossFactor" (·.lossFactor) fun v a => { a with lossFactor := v },
   .defaulted "voltageRegulatorOn" default (·.voltageRegulatorOn)
     fun v a => { a with voltageRegulatorOn := v },
   .optional "reactivePowerSetpoint" (·.reactivePowerSetpoint)
     fun v a => { a with reactivePowerSetpoint := v },
   .optional "voltageSetpoint" (·.voltageSetpoint) fun v a => { a with voltageSetpoint := v },
   .optional "reactiveLimits" (·.reactiveLimits) fun v a => { a with reactiveLimits := v }]

/-- The columns. -/
def mapping : Mapping VscConverterStation where
  kind := .equipment .vscConverterStation
  fields := identification ++ container ++ terminal ++ own
  containers := ["voltageLevelId"]
  updateKey := some "voltageLevelId"

/-- The members of objects. -/
def members : List (Member VscConverterStation) :=
  (container ++ identification ++ terminal ++ own).map (·.toMember)

end VscConverterStation

/-- The attributes of a line commutated converter station. -/
structure LccConverterStation extends Identification, Connection where
  lossFactor : Binary64
  powerFactor : Binary64
deriving BEq, Inhabited

namespace LccConverterStation

/-- The name, the properties and whether the equipment is a fictitious one. -/
def identification : List (Field LccConverterStation) :=
  Identification.fields.map
    (·.within (·.toIdentification) fun v a => { a with toIdentification := v })

/-- The voltage level. -/
def container : List (Field LccConverterStation) :=
  Connection.container.map (·.within (·.toConnection) fun v a => { a with toConnection := v })

/-- The terminal. -/
def terminal : List (Field LccConverterStation) :=
  Connection.terminal.map (·.within (·.toConnection) fun v a => { a with toConnection := v })

/-- The losses of a converter station. -/
def own : List (Field LccConverterStation) :=
  [.required "lossFactor" (·.lossFactor) fun v a => { a with lossFactor := v },
   .required "powerFactor" (·.powerFactor) fun v a => { a with powerFactor := v }]

/-- The columns. -/
def mapping : Mapping LccConverterStation where
  kind := .equipment .lccConverterStation
  fields := identification ++ container ++ terminal ++ own
  containers := ["voltageLevelId"]
  updateKey := some "voltageLevelId"

/-- The members of objects. -/
def members : List (Member LccConverterStation) :=
  (container ++ identification ++ terminal ++ own).map (·.toMember)

end LccConverterStation

/-- The attributes of a static var compensator. -/
structure StaticVarCompensator extends Identification, Connection where
  bmin : Binary64
  bmax : Binary64
  voltageSetpoint : Option Binary64
  reactivePowerSetpoint : Option Binary64
  regulationMode : StaticVarCompensatorRegulationMode
  voltagePerReactivePowerControl : Option VoltagePerReactivePowerControl
  regulatingTerminal : Option TerminalRef
deriving BEq, Inhabited

namespace StaticVarCompensator

/-- The name, the properties and whether the equipment is a fictitious one. -/
def identification : List (Field StaticVarCompensator) :=
  Identification.fields.map
    (·.within (·.toIdentification) fun v a => { a with toIdentification := v })

/-- The voltage level. -/
def container : List (Field StaticVarCompensator) :=
  Connection.container.map (·.within (·.toConnection) fun v a => { a with toConnection := v })

/-- The terminal. -/
def terminal : List (Field StaticVarCompensator) :=
  Connection.terminal.map (·.within (·.toConnection) fun v a => { a with toConnection := v })

/-- The susceptances and the control of a static var compensator. -/
def own : List (Field StaticVarCompensator) :=
  [.required "bmin" (·.bmin) fun v a => { a with bmin := v },
   .required "bmax" (·.bmax) fun v a => { a with bmax := v },
   .optional "voltageSetpoint" (·.voltageSetpoint) fun v a => { a with voltageSetpoint := v },
   .optional "reactivePowerSetpoint" (·.reactivePowerSetpoint)
     fun v a => { a with reactivePowerSetpoint := v },
   .defaulted "regulationMode" default (·.regulationMode)
     fun v a => { a with regulationMode := v },
   .optional "voltagePerReactivePowerControl" (·.voltagePerReactivePowerControl)
     fun v a => { a with voltagePerReactivePowerControl := v },
   .optional "regulatingTerminal" (·.regulatingTerminal)
     fun v a => { a with regulatingTerminal := v }]

/-- The columns. -/
def mapping : Mapping StaticVarCompensator where
  kind := .equipment .staticVarCompensator
  fields := identification ++ container ++ terminal ++ own
  containers := ["voltageLevelId"]
  updateKey := some "voltageLevelId"

/-- The members of objects. -/
def members : List (Member StaticVarCompensator) :=
  (container ++ identification ++ terminal ++ own).map (·.toMember)

end StaticVarCompensator

/-- The attributes of a line that leaves the network. -/
structure DanglingLine extends Identification, Connection where
  p0 : Binary64
  q0 : Binary64
  r : Binary64
  x : Binary64
  g : Binary64
  b : Binary64
  ucteXnodeCode : Option String
  generation : Option DanglingLineGeneration
  currentLimits : Option CurrentLimits
deriving BEq, Inhabited

namespace DanglingLine

/-- The name, the properties and whether the equipment is a fictitious one. -/
def identification : List (Field DanglingLine) :=
  Identification.fields.map
    (·.within (·.toIdentification) fun v a => { a with toIdentification := v })

/-- The voltage level. -/
def container : List (Field DanglingLine) :=
  Connection.container.map (·.within (·.toConnection) fun v a => { a with toConnection := v })

/-- The terminal. -/
def terminal : List (Field DanglingLine) :=
  Connection.terminal.map (·.within (·.toConnection) fun v a => { a with toConnection := v })

/-- The far end, the impedance and the limits of a dangling line. -/
def own : List (Field DanglingLine) :=
  [.required "p0" (·.p0) fun v a => { a with p0 := v },
   .required "q0" (·.q0) fun v a => { a with q0 := v },
   .required "r" (·.r) fun v a => { a with r := v },
   .required "x" (·.x) fun v a => { a with x := v },
   .required "g" (·.g) fun v a => { a with g := v },
   .required "b" (·.b) fun v a => { a with b := v },
   .optional "ucteXnodeCode" (·.ucteXnodeCode) fun v a => { a with ucteXnodeCode := v },
   .optional "generation" (·.generation) fun v a => { a with generation := v },
   .optional "currentLimits" (·.currentLimits) fun v a => { a with currentLimits := v }]

/-- The columns. -/
def mapping : Mapping DanglingLine where
  kind := .equipment .danglingLine
  fields := identification ++ container ++ terminal ++ own
  containers := ["voltageLevelId"]
  updateKey := some "voltageLevelId"

/-- The members of objects. -/
def members : List (Member DanglingLine) :=
  (container ++ identification ++ terminal ++ own).map (·.toMember)

end DanglingLine

end GridStore
