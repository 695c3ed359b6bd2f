import GridStore.Attributes.Choices
import GridStore.Column.Codec
import GridStore.Json.Member

/-!
# Nested values

Parts of attributes that are held in one column as JSON. Their doubles are written losslessly, so
that a part holds NaN and the infinities as well as any other number.
-/

namespace GridStore

/-! ## Connectivity -/

/-- Where a feeder is drawn. -/
structure ConnectablePosition where
  label : String
  order : Option Int32
  direction : ConnectableDirection
deriving BEq, Inhabited

/-- The members of `ConnectablePosition` objects. -/
def ConnectablePosition.members : List (Member ConnectablePosition) :=
  [.required "label" JsonValue.codec (·.label) fun v a => { a with label := v },
   .optional "order" JsonValue.codec (·.order) fun v a => { a with order := v },
   .required "direction" JsonValue.codec (·.direction) fun v a => { a with direction := v }]

instance : JsonValue ConnectablePosition := ⟨.record ConnectablePosition.members default⟩

/-- A terminal of an equipment, with its side where it has several. -/
structure TerminalRef where
  connectableId : String
  side : Option String
deriving BEq, Inhabited

/-- The members of `TerminalRef` objects. -/
def TerminalRef.members : List (Member TerminalRef) :=
  [.required "connectableId" JsonValue.codec (·.connectableId)
     fun v a => { a with connectableId := v },
   .optional "side" JsonValue.codec (·.side) fun v a => { a with side := v }]

instance : JsonValue TerminalRef := ⟨.record TerminalRef.members default⟩

/-- Two nodes of a voltage level that are one. -/
structure InternalConnection where
  node1 : Int32
  node2 : Int32
deriving BEq, Inhabited

/-- The members of `InternalConnection` objects. -/
def InternalConnection.members : List (Member InternalConnection) :=
  [.required "node1" JsonValue.codec (·.node1) fun v a => { a with node1 := v },
   .required "node2" JsonValue.codec (·.node2) fun v a => { a with node2 := v }]

instance : JsonValue InternalConnection := ⟨.record InternalConnection.members default⟩

/-! ## Reactive limits and controls -/

/-- The reactive limits at an active power. -/
structure ReactiveCapabilityCurvePoint where
  p : Binary64
  minQ : Binary64
  maxQ : Binary64
deriving BEq, Inhabited

/-- The members of `ReactiveCapabilityCurvePoint` objects. -/
def ReactiveCapabilityCurvePoint.members : List (Member ReactiveCapabilityCurvePoint) :=
  [.required "p" .lossless (·.p) fun v a => { a with p := v },
   .required "minQ" .lossless (·.minQ) fun v a => { a with minQ := v },
   .required "maxQ" .lossless (·.maxQ) fun v a => { a with maxQ := v }]

instance : JsonValue ReactiveCapabilityCurvePoint :=
  ⟨.record ReactiveCapabilityCurvePoint.members default⟩

/-- The same reactive limits at every active power. -/
structure MinMaxReactiveLimits where
  minQ : Binary64
  maxQ : Binary64
deriving BEq, Inhabited

/-- The members of `MinMaxReactiveLimits` objects. -/
def MinMaxReactiveLimits.members : List (Member MinMaxReactiveLimits) :=
  [.required "minQ" .lossless (·.minQ) fun v a => { a with minQ := v },
   .required "maxQ" .lossless (·.maxQ) fun v a => { a with maxQ := v }]

instance : JsonValue MinMaxReactiveLimits := ⟨.record MinMaxReactiveLimits.members default⟩

/-- Reactive limits that depend on the active power. -/
structure ReactiveCapabilityCurve where
  points : List ReactiveCapabilityCurvePoint
deriving BEq, Inhabited

/-- The members of `ReactiveCapabilityCurve` objects. -/
def ReactiveCapabilityCurve.members : List (Member ReactiveCapabilityCurve) :=
  [.required "points" JsonValue.codec (·.points) fun v a => { a with points := v }]

instance : JsonValue ReactiveCapabilityCurve := ⟨.record ReactiveCapabilityCurve.members default⟩

/-- The reactive power that an equipment can give or take. -/
inductive ReactiveLimits where
  | minMax (limits : MinMaxReactiveLimits)
  | curve (limits : ReactiveCapabilityCurve)
deriving BEq, Inhabited

/-- The case `MIN_MAX` of a `ReactiveLimits`. -/
def ReactiveLimits.minMaxCase : Case ReactiveLimits where
  label := "MIN_MAX"
  Payload := MinMaxReactiveLimits
  members := MinMaxReactiveLimits.members
  start := default
  inject := .minMax
  project
    | .minMax payload => some payload
    | _ => none

/-- The case `CURVE` of a `ReactiveLimits`. -/
def ReactiveLimits.curveCase : Case ReactiveLimits where
  label := "CURVE"
  Payload := ReactiveCapabilityCurve
  members := ReactiveCapabilityCurve.members
  start := default
  inject := .curve
  project
    | .curve payload => some payload
    | _ => none

instance : JsonValue ReactiveLimits :=
  ⟨.union "kind" [ReactiveLimits.minMaxCase, ReactiveLimits.curveCase]⟩

/-- Whether and how an equipment takes part in frequency control. -/
structure ActivePowerControl where
  participate : Bool
  droop : Binary64
deriving BEq, Inhabited

/-- The members of `ActivePowerControl` objects. -/
def ActivePowerControl.members : List (Member ActivePowerControl) :=
  [.required "participate" JsonValue.codec (·.participate) fun v a => { a with participate := v },
   .required "droop" .lossless (·.droop) fun v a => { a with droop := v }]

instance : JsonValue ActivePowerControl := ⟨.record ActivePowerControl.members default⟩

/-- The share of a generator in a coordinated control. -/
structure CoordinatedReactiveControl where
  qPercent : Binary64
deriving BEq, Inhabited

/-- The members of `CoordinatedReactiveControl` objects. -/
def CoordinatedReactiveControl.members : List (Member CoordinatedReactiveControl) :=
  [.required "qPercent" .lossless (·.qPercent) fun v a => { a with qPercent := v }]

instance : JsonValue CoordinatedReactiveControl :=
  ⟨.record CoordinatedReactiveControl.members default⟩

/-- The slope of a voltage control. -/
structure VoltagePerReactivePowerControl where
  slope : Binary64
deriving BEq, Inhabited

/-- The members of `VoltagePerReactivePowerControl` objects. -/
def VoltagePerReactivePowerControl.members : List (Member VoltagePerReactivePowerControl) :=
  [.required "slope" .lossless (·.slope) fun v a => { a with slope := v }]

instance : JsonValue VoltagePerReactivePowerControl :=
  ⟨.record VoltagePerReactivePowerControl.members default⟩

/-! ## Limits -/

/-- A current that may flow for a while. -/
structure TemporaryLimit where
  name : String
  value : Option Binary64
  acceptableDuration : Option Int32
  fictitious : Bool
deriving BEq, Inhabited

/-- The members of `TemporaryLimit` objects. -/
def TemporaryLimit.members : List (Member TemporaryLimit) :=
  [.required "name" JsonValue.codec (·.name) fun v a => { a with name := v },
   .optional "value" .lossless (·.value) fun v a => { a with value := v },
   .optional "acceptableDuration" JsonValue.codec (·.acceptableDuration)
     fun v a => { a with acceptableDuration := v },
   .defaulted "fictitious" JsonValue.codec default (·.fictitious)
     fun v a => { a with fictitious := v }]

instance : JsonValue TemporaryLimit := ⟨.record TemporaryLimit.members default⟩

/-- The currents that may flow. -/
structure CurrentLimits where
  permanentLimit : Binary64
  temporaryLimits : List TemporaryLimit
deriving BEq, Inhabited

/-- The members of `CurrentLimits` objects. -/
def CurrentLimits.members : List (Member CurrentLimits) :=
  [.required "permanentLimit" .lossless (·.permanentLimit)
     fun v a => { a with permanentLimit := v },
   .defaulted "temporaryLimits" JsonValue.codec default (·.temporaryLimits)
     fun v a => { a with temporaryLimits := v }]

instance : JsonValue CurrentLimits := ⟨.record CurrentLimits.members default⟩

/-! ## Tap changers -/

/-- What a transformer adds at a tap. -/
structure TapChangerStep where
  rho : Binary64
  r : Binary64
  x : Binary64
  g : Binary64
  b : Binary64
  alpha : Option Binary64
deriving BEq, Inhabited

/-- The members of `TapChangerStep` objects. -/
def TapChangerStep.members : List (Member TapChangerStep) :=
  [.required "rho" .lossless (·.rho) fun v a => { a with rho := v },
   .required "r" .lossless (·.r) fun v a => { a with r := v },
   .required "x" .lossless (·.x) fun v a => { a with x := v },
   .required "g" .lossless (·.g) fun v a => { a with g := v },
   .required "b" .lossless (·.b) fun v a => { a with b := v },
   .optional "alpha" .lossless (·.alpha) fun v a => { a with alpha := v }]

instance : JsonValue TapChangerStep := ⟨.record TapChangerStep.members default⟩

/-- A tap changer that changes the ratio of a transformer. -/
structure RatioTapChanger where
  lowTapPosition : Int32
  tapPosition : Int32
  steps : List TapChangerStep
  loadTapChangingCapabilities : Bool
  regulating : Bool
  targetV : Option Binary64
  targetDeadband : Option Binary64
  regulatingTerminal : Option TerminalRef
deriving BEq, Inhabited

/-- The members of `RatioTapChanger` objects. -/
def RatioTapChanger.members : List (Member RatioTapChanger) :=
  [.required "lowTapPosition" JsonValue.codec (·.lowTapPosition)
     fun v a => { a with lowTapPosition := v },
   .required "tapPosition" JsonValue.codec (·.tapPosition) fun v a => { a with tapPosition := v },
   .required "steps" JsonValue.codec (·.steps) fun v a => { a with steps := v },
   .required "loadTapChangingCapabilities" JsonValue.codec (·.loadTapChangingCapabilities)
     fun v a => { a with loadTapChangingCapabilities := v },
   .required "regulating" JsonValue.codec (·.regulating) fun v a => { a with regulating := v },
   .optional "targetV" .lossless (·.targetV) fun v a => { a with targetV := v },
   .optional "targetDeadband" .lossless (·.targetDeadband)
     fun v a => { a with targetDeadband := v },
   .optional "regulatingTerminal" JsonValue.codec (·.regulatingTerminal)
     fun v a => { a with regulatingTerminal := v }]

instance : JsonValue RatioTapChanger := ⟨.record RatioTapChanger.members default⟩

/-- A tap changer that shifts the phase of a transformer. -/
structure PhaseTapChanger where
  lowTapPosition : Int32
  tapPosition : Int32
  steps : List TapChangerStep
  regulationMode : PhaseTapChangerRegulationMode
  regulationValue : Option Binary64
  regulating : Bool
  targetDeadband : Option Binary64
  regulatingTerminal : Option TerminalRef
deriving BEq, Inhabited

/-- The members of `PhaseTapChanger` objects. -/
def PhaseTapChanger.members : List (Member PhaseTapChanger) :=
  [.required "lowTapPosition" JsonValue.codec (·.lowTapPosition)
     fun v a => { a with lowTapPosition := v },
   .required "tapPosition" JsonValue.codec (·.tapPosition) fun v a => { a with tapPosition := v },
   .required "steps" JsonValue.codec (·.steps) fun v a => { a with steps := v },
   .required "regulationMode" JsonValue.codec (·.regulationMode)
     fun v a => { a with regulationMode := v },
   .optional "regulationValue" .lossless (·.regulationValue)
     fun v a => { a with regulationValue := v },
   .required "regulating" JsonValue.codec (·.regulating) fun v a => { a with regulating := v },
   .optional "targetDeadband" .lossless (·.targetDeadband)
     fun v a => { a with targetDeadband := v },
   .optional "regulatingTerminal" JsonValue.codec (·.regulatingTerminal)
     fun v a => { a with regulatingTerminal := v }]

instance : JsonValue PhaseTapChanger := ⟨.record PhaseTapChanger.members default⟩

/-! ## Parts of single kinds -/

/-- A leg of a three windings transformer. -/
structure Leg where
  r : Binary64
  x : Binary64
  g : Binary64
  b : Binary64
  ratedU : Binary64
  ratedS : Option Binary64
  ratioTapChanger : Option RatioTapChanger
  phaseTapChanger : Option PhaseTapChanger
  currentLimits : Option CurrentLimits
deriving BEq, Inhabited

/-- The members of `Leg` objects. -/
def Leg.members : List (Member Leg) :=
  [.required "r" .lossless (·.r) fun v a => { a with r := v },
   .required "x" .lossless (·.x) fun v a => { a with x := v },
   .required "g" .lossless (·.g) fun v a => { a with g := v },
   .required "b" .lossless (·.b) fun v a => { a with b := v },
   .required "ratedU" .lossless (·.ratedU) fun v a => { a with ratedU := v },
   .optional "ratedS" .lossless (·.ratedS) fun v a => { a with ratedS := v },
   .optional "ratioTapChanger" JsonValue.codec (·.ratioTapChanger)
     fun v a => { a with ratioTapChanger := v },
   .optional "phaseTapChanger" JsonValue.codec (·.phaseTapChanger)
     fun v a => { a with phaseTapChanger := v },
   .optional "currentLimits" JsonValue.codec (·.currentLimits)
     fun v a => { a with currentLimits := v }]

instance : JsonValue Leg := ⟨.record Leg.members default⟩

/-- What a section of a shunt compensator adds. -/
structure ShuntCompensatorSection where
  b : Binary64
  g : Binary64
deriving BEq, Inhabited

/-- The members of `ShuntCompensatorSection` objects. -/
def ShuntCompensatorSection.members : List (Member ShuntCompensatorSection) :=
  [.required "b" .lossless (·.b) fun v a => { a with b := v },
   .required "g" .lossless (·.g) fun v a => { a with g := v }]

instance : JsonValue ShuntCompensatorSection := ⟨.record ShuntCompensatorSection.members default⟩

/-- A shunt compensator whose sections are alike. -/
structure LinearShuntModel where
  bPerSection : Binary64
  gPerSection : Option Binary64
  maximumSectionCount : Int32
deriving BEq, Inhabited

/-- The members of `LinearShuntModel` objects. -/
def LinearShuntModel.members : List (Member LinearShuntModel) :=
  [.required "bPerSection" .lossless (·.bPerSection) fun v a => { a with bPerSection := v },
   .optional "gPerSection" .lossless (·.gPerSection) fun v a => { a with gPerSection := v },
   .required "maximumSectionCount" JsonValue.codec (·.maximumSectionCount)
     fun v a => { a with maximumSectionCount := v }]

instance : JsonValue LinearShuntModel := ⟨.record LinearShuntModel.members default⟩

/-- A shunt compensator whose sections differ. -/
structure NonLinearShuntModel where
  sections : List ShuntCompensatorSection
deriving BEq, Inhabited

/-- The members of `NonLinearShuntModel` objects. -/
def NonLinearShuntModel.members : List (Member NonLinearShuntModel) :=
  [.required "sections" JsonValue.codec (·.sections) fun v a => { a with sections := v }]

instance : JsonValue NonLinearShuntModel := ⟨.record NonLinearShuntModel.members default⟩

/-- What the sections of a shunt compensator add. -/
inductive ShuntCompensatorModel where
  | linear (model : LinearShuntModel)
  | nonLinear (model : NonLinearShuntModel)
deriving BEq, Inhabited

/-- The case `LINEAR` of a `ShuntCompensatorModel`. -/
def ShuntCompensatorModel.linearCase : Case ShuntCompensatorModel where
  label := "LINEAR"
  Payload := LinearShuntModel
  members := LinearShuntModel.members
  start := default
  inject := .linear
  project
    | .linear payload => some payload
    | _ => none

/-- The case `NON_LINEAR` of a `ShuntCompensatorModel`. -/
def ShuntCompensatorModel.nonLinearCase : Case ShuntCompensatorModel where
  label := "NON_LINEAR"
  Payload := NonLinearShuntModel
  members := NonLinearShuntModel.members
  start := default
  inject := .nonLinear
  project
    | .nonLinear payload => some payload
    | _ => none

instance : JsonValue ShuntCompensatorModel :=
  ⟨.union "kind" [ShuntCompensatorModel.linearCase, ShuntCompensatorModel.nonLinearCase]⟩

/-- The generation at the far end of a dangling line. -/
structure DanglingLineGeneration where
  minP : Binary64
  maxP : Binary64
  targetP : Binary64
  targetQ : Binary64
  targetV : Binary64
  voltageRegulationOn : Bool
  reactiveLimits : Option ReactiveLimits
deriving BEq, Inhabited

/-- The members of `DanglingLineGeneration` objects. -/
def DanglingLineGeneration.members : List (Member DanglingLineGeneration) :=
  [.required "minP" .lossless (·.minP) fun v a => { a with minP := v },
   .required "maxP" .lossless (·.maxP) fun v a => { a with maxP := v },
   .required "targetP" .lossless (·.targetP) fun v a => { a with targetP := v },
   .required "targetQ" .lossless (·.targetQ) fun v a => { a with targetQ := v },
   .required "targetV" .lossless (·.targetV) fun v a => { a with targetV := v },
   .required "voltageRegulationOn" JsonValue.codec (·.voltageRegulationOn)
     fun v a => { a with voltageRegulationOn := v },
   .optional "reactiveLimits" JsonValue.codec (·.reactiveLimits)
     fun v a => { a with reactiveLimits := v }]

instance : JsonValue DanglingLineGeneration := ⟨.record DanglingLineGeneration.members default⟩

/-- The angle droop control of an HVDC line. -/
structure HvdcAngleDroopActivePowerControl where
  p0 : Binary64
  droop : Binary64
  enabled : Bool
deriving BEq, Inhabited

/-- The members of `HvdcAngleDroopActivePowerControl` objects. -/
def HvdcAngleDroopActivePowerControl.members : List (Member HvdcAngleDroopActivePowerControl) :=
  [.required "p0" .lossless (·.p0) fun v a => { a with p0 := v },
   .required "droop" .lossless (·.droop) fun v a => { a with droop := v },
   .required "enabled" JsonValue.codec (·.enabled) fun v a => { a with enabled := v }]

instance : JsonValue HvdcAngleDroopActivePowerControl :=
  ⟨.record HvdcAngleDroopActivePowerControl.members default⟩

/-- The power that an operator allows in each direction of an HVDC line. -/
structure HvdcOperatorActivePowerRange where
  oprFromCs1ToCs2 : Binary64
  oprFromCs2ToCs1 : Binary64
deriving BEq, Inhabited

/-- The members of `HvdcOperatorActivePowerRange` objects. -/
def HvdcOperatorActivePowerRange.members : List (Member HvdcOperatorActivePowerRange) :=
  [.required "oprFromCs1ToCs2" .lossless (·.oprFromCs1ToCs2)
     fun v a => { a with oprFromCs1ToCs2 := v },
   .required "oprFromCs2ToCs1" .lossless (·.oprFromCs2ToCs1)
     fun v a => { a with oprFromCs2ToCs1 := v }]

instance : JsonValue HvdcOperatorActivePowerRange :=
  ⟨.record HvdcOperatorActivePowerRange.members default⟩

/-! ## Metadata of a network -/

/-- Metadata of a state variables instance. -/
structure CgmesSvMetadata where
  description : String
  svVersion : Int32
  dependencies : List String
  modelingAuthoritySet : String
deriving BEq, Inhabited

/-- The members of `CgmesSvMetadata` objects. -/
def CgmesSvMetadata.members : List (Member CgmesSvMetadata) :=
  [.required "description" JsonValue.codec (·.description) fun v a => { a with description := v },
   .required "svVersion" JsonValue.codec (·.svVersion) fun v a => { a with svVersion := v },
   .required "dependencies" JsonValue.codec (·.dependencies)
     fun v a => { a with dependencies := v },
   .required "modelingAuthoritySet" JsonValue.codec (·.modelingAuthoritySet)
     fun v a => { a with modelingAuthoritySet := v }]

instance : JsonValue CgmesSvMetadata := ⟨.record CgmesSvMetadata.members default⟩

/-- Metadata of a steady state hypothesis instance. -/
structure CgmesSshMetadata where
  description : String
  sshVersion : Int32
  dependencies : List String
  modelingAuthoritySet : String
deriving BEq, Inhabited

/-- The members of `CgmesSshMetadata` objects. -/
def CgmesSshMetadata.members : List (Member CgmesSshMetadata) :=
  [.required "description" JsonValue.codec (·.description) fun v a => { a with description := v },
   .required "sshVersion" JsonValue.codec (·.sshVersion) fun v a => { a with sshVersion := v },
   .required "dependencies" JsonValue.codec (·.dependencies)
     fun v a => { a with dependencies := v },
   .required "modelingAuthoritySet" JsonValue.codec (·.modelingAuthoritySet)
     fun v a => { a with modelingAuthoritySet := v }]

instance : JsonValue CgmesSshMetadata := ⟨.record CgmesSshMetadata.members default⟩

/-- The CIM profile that a network came from. -/
structure CimCharacteristics where
  topologyKind : CgmesTopologyKind
  cimVersion : Int32
deriving BEq, Inhabited

/-- The members of `CimCharacteristics` objects. -/
def CimCharacteristics.members : List (Member CimCharacteristics) :=
  [.required "topologyKind" JsonValue.codec (·.topologyKind)
     fun v a => { a with topologyKind := v },
   .required "cimVersion" JsonValue.codec (·.cimVersion) fun v a => { a with cimVersion := v }]

instance : JsonValue CimCharacteristics := ⟨.record CimCharacteristics.members default⟩

/-! ## Columns -/

instance : ColumnCodec ConnectablePosition := .ofJson .json JsonValue.codec
instance : ColumnCodec TerminalRef := .ofJson .json JsonValue.codec
instance : ColumnCodec (List InternalConnection) := .ofJson .json JsonValue.codec
instance : ColumnCodec ReactiveLimits := .ofJson .json JsonValue.codec
instance : ColumnCodec ActivePowerControl := .ofJson .json JsonValue.codec
instance : ColumnCodec CoordinatedReactiveControl := .ofJson .json JsonValue.codec
instance : ColumnCodec VoltagePerReactivePowerControl := .ofJson .json JsonValue.codec
instance : ColumnCodec CurrentLimits := .ofJson .json JsonValue.codec
instance : ColumnCodec RatioTapChanger := .ofJson .json JsonValue.codec
instance : ColumnCodec PhaseTapChanger := .ofJson .json JsonValue.codec
instance : ColumnCodec Leg := .ofJson .json JsonValue.codec
instance : ColumnCodec ShuntCompensatorModel := .ofJson .json JsonValue.codec
instance : ColumnCodec DanglingLineGeneration := .ofJson .json JsonValue.codec
instance : ColumnCodec HvdcAngleDroopActivePowerControl := .ofJson .json JsonValue.codec
instance : ColumnCodec HvdcOperatorActivePowerRange := .ofJson .json JsonValue.codec
instance : ColumnCodec CgmesSvMetadata := .ofJson .json JsonValue.codec
instance : ColumnCodec CgmesSshMetadata := .ofJson .json JsonValue.codec
instance : ColumnCodec CimCharacteristics := .ofJson .json JsonValue.codec

end GridStore
