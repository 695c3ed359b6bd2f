import GridStore.Attributes.Shared

/-!
# Branches

Equipment with several terminals.
-/

namespace GridStore

/-- The attributes of a line. -/
structure Line extends Identification, BranchEnds where
  r : Binary64
  x : Binary64
  g1 : Binary64
  b1 : Binary64
  g2 : Binary64
  b2 : Binary64
deriving BEq, Inhabited

namespace Line

/-- The name, the properties and whether the equipment is a fictitious one. -/
def identification : List (Field Line) :=
  Identification.fields.map
    (·.within (·.toIdentification) fun v a => { a with toIdentification := v })

/-- The voltage levels. -/
def containers : List (Field Line) :=
  BranchEnds.containers.map (·.within (·.toBranchEnds) fun v a => { a with toBranchEnds := v })

/-- The terminals. -/
def terminals : List (Field Line) :=
  BranchEnds.terminals.map (·.within (·.toBranchEnds) fun v a => { a with toBranchEnds := v })

/-- The flows. -/
def flows : List (Field Line) :=
  BranchEnds.flows.map (·.within (·.toBranchEnds) fun v a => { a with toBranchEnds := v })

/-- Where it is drawn. -/
def positions : List (Field Line) :=
  BranchEnds.positions.map (·.within (·.toBranchEnds) fun v a => { a with toBranchEnds := v })

/-- The limits of the currents. -/
def limits : List (Field Line) :=
  BranchEnds.limits.map (·.within (·.toBranchEnds) fun v a => { a with toBranchEnds := v })

/-- The impedance. -/
def impedance : List (Field Line) :=
  [.required "r" (·.r) fun v a => { a with r := v },
   .required "x" (·.x) fun v a => { a with x := v },
   .required "g1" (·.g1) fun v a => { a with g1 := v },
   .required "b1" (·.b1) fun v a => { a with b1 := v },
   .required "g2" (·.g2) fun v a => { a with g2 := v },
   .required "b2" (·.b2) fun v a => { a with b2 := v }]

/-- The columns. -/
def mapping : Mapping Line where
  kind := .equipment .line
  fields := identification ++ containers ++ terminals ++ flows ++ positions ++ limits ++ impedance
  containers := ["voltageLevelId1", "voltageLevelId2"]
  updateKey := none

/-- The members of objects. -/
def members : List (Member Line) :=
  (containers ++ identification ++ terminals ++ impedance ++ flows ++ positions ++ limits).map
    (·.toMember)

end Line

/-- The attributes of a transformer with two windings. -/
structure TwoWindingsTransformer extends Identification, BranchEnds where
  r : Binary64
  x : Binary64
  g : Binary64
  b : Binary64
  ratedU1 : Binary64
  ratedU2 : Binary64
  ratedS : Option Binary64
  ratioTapChanger : Option RatioTapChanger
  phaseTapChanger : Option PhaseTapChanger
deriving BEq, Inhabited

namespace TwoWindingsTransformer

/-- The name, the properties and whether the equipment is a fictitious one. -/
def identification : List (Field TwoWindingsTransformer) :=
  Identification.fields.map
    (·.within (·.toIdentification) fun v a => { a with toIdentification := v })

/-- The voltage levels. -/
def containers : List (Field TwoWindingsTransformer) :=
  BranchEnds.containers.map (·.within (·.toBranchEnds) fun v a => { a with toBranchEnds := v })

/-- The terminals. -/
def terminals : List (Field TwoWindingsTransformer) :=
  BranchEnds.terminals.map (·.within (·.toBranchEnds) fun v a => { a with toBranchEnds := v })

/-- The flows. -/
def flows : List (Field TwoWindingsTransformer) :=
  BranchEnds.flows.map (·.within (·.toBranchEnds) fun v a => { a with toBranchEnds := v })

/-- Where it is drawn. -/
def positions : List (Field TwoWindingsTransformer) :=
  BranchEnds.positions.map (·.within (·.toBranchEnds) fun v a => { a with toBranchEnds := v })

/-- The limits of the currents. -/
def limits : List (Field TwoWindingsTransformer) :=
  BranchEnds.limits.map (·.within (·.toBranchEnds) fun v a => { a with toBranchEnds := v })

/-- The impedance and the rated values. -/
def windings : List (Field TwoWindingsTransformer) :=
  [.required "r" (·.r) fun v a => { a with r := v },
   .required "x" (·.x) fun v a => { a with x := v },
   .required "g" (·.g) fun v a => { a with g := v },
   .required "b" (·.b) fun v a => { a with b := v },
   .required "ratedU1" (·.ratedU1) fun v a => { a with ratedU1 := v },
   .required "ratedU2" (·.ratedU2) fun v a => { a with ratedU2 := v },
   .optional "ratedS" (·.ratedS) fun v a => { a with ratedS := v }]

/-- The tap changers. -/
def tapChangers : List (Field TwoWindingsTransformer) :=
  [.optional "ratioTapChanger" (·.ratioTapChanger) fun v a => { a with ratioTapChanger := v },
   .optional "phaseTapChanger" (·.phaseTapChanger) fun v a => { a with phaseTapChanger := v }]

/-- The columns. -/
def mapping : Mapping TwoWindingsTransformer where
  kind := .equipment .twoWindingsTransformer
  fields := identification ++ containers ++ terminals ++ flows ++ positions ++ limits ++ windings ++
    tapChangers
  containers := ["voltageLevelId1", "voltageLevelId2"]
  updateKey := none

/-- The members of objects. -/
def members : List (Member TwoWindingsTransformer) :=
  (containers ++ identification ++ terminals ++ windings ++ flows ++ positions ++ tapChangers ++
    limits).map (·.toMember)

end TwoWindingsTransformer

/-- The attributes of a transformer with three windings. -/
structure ThreeWindingsTransformer extends Identification where
  voltageLevelId1 : String
  voltageLevelId2 : String
  voltageLevelId3 : String
  node1 : Option Int32
  node2 : Option Int32
  node3 : Option Int32
  bus1 : Option String
  bus2 : Option String
  bus3 : Option String
  ratedU0 : Binary64
  leg1 : Leg
  leg2 : Leg
  leg3 : Leg
  p1 : Option Binary64
  q1 : Option Binary64
  p2 : Option Binary64
  q2 : Option Binary64
  p3 : Option Binary64
  q3 : Option Binary64
  position1 : Option ConnectablePosition
  position2 : Option ConnectablePosition
  position3 : Option ConnectablePosition
deriving BEq, Inhabited

namespace ThreeWindingsTransformer

/-- The name, the properties and whether the equipment is a fictitious one. -/
def identification : List (Field ThreeWindingsTransformer) :=
  Identification.fields.map
    (·.within (·.toIdentification) fun v a => { a with toIdentification := v })

/-- The voltage levels. -/
def containers : List (Field ThreeWindingsTransformer) :=
  [.required "voltageLevelId1" (·.voltageLevelId1) fun v a => { a with voltageLevelId1 := v },
   .required "voltageLevelId2" (·.voltageLevelId2) fun v a => { a with voltageLevelId2 := v },
   .required "voltageLevelId3" (·.voltageLevelId3) fun v a => { a with voltageLevelId3 := v }]

/-- The terminals, legs, flows and positions. -/
def own : List (Field ThreeWindingsTransformer) :=
  [.optional "node1" (·.node1) fun v a => { a with node1 := v },
   .optional "node2" (·.node2) fun v a => { a with node2 := v },
   .optional "node3" (·.node3) fun v a => { a with node3 := v },
   .optional "bus1" (·.bus1) fun v a => { a with bus1 := v },
   .optional "bus2" (·.bus2) fun v a => { a with bus2 := v },
   .optional "bus3" (·.bus3) fun v a => { a with bus3 := v },
   .required "ratedU0" (·.ratedU0) fun v a => { a with ratedU0 := v },
   .required "leg1" (·.leg1) fun v a => { a with leg1 := v },
   .required "leg2" (·.leg2) fun v a => { a with leg2 := v },
   .required "leg3" (·.leg3) fun v a => { a with leg3 := v },
   .optional "p1" (·.p1) fun v a => { a with p1 := v },
   .optional "q1" (·.q1) fun v a => { a with q1 := v },
   .optional "p2" (·.p2) fun v a => { a with p2 := v },
   .optional "q2" (·.q2) fun v a => { a with q2 := v },
   .optional "p3" (·.p3) fun v a => { a with p3 := v },
   .optional "q3" (·.q3) fun v a => { a with q3 := v },
   .optional "position1" (·.position1) fun v a => { a with position1 := v },
   .optional "position2" (·.position2) fun v a => { a with position2 := v },
   .optional "position3" (·.position3) fun v a => { a with position3 := v }]

/-- The columns. -/
def mapping : Mapping ThreeWindingsTransformer where
  kind := .equipment .threeWindingsTransformer
  fields := identification ++ containers ++ own
  containers := ["voltageLevelId1", "voltageLevelId2", "voltageLevelId3"]
  updateKey := none

/-- The members of objects. -/
def members : List (Member ThreeWindingsTransformer) :=
  (containers ++ identification ++ own).map (·.toMember)

end ThreeWindingsTransformer

/-- The attributes of an HVDC line. -/
structure HvdcLine extends Identification where
  r : Binary64
  nominalV : Binary64
  activePowerSetpoint : Binary64
  maxP : Binary64
  convertersMode : HvdcConvertersMode
  converterStationId1 : String
  converterStationId2 : String
  angleDroop : Option HvdcAngleDroopActivePowerControl
  operatorRange : Option HvdcOperatorActivePowerRange
deriving BEq, Inhabited

namespace HvdcLine

/-- The name, the properties and whether the equipment is a fictitious one. -/
def identification : List (Field HvdcLine) :=
  Identification.fields.map
    (·.within (·.toIdentification) fun v a => { a with toIdentification := v })

/-- The converter stations, setpoints and controls of an HVDC line. -/
def own : List (Field HvdcLine) :=
  [.required "r" (·.r) fun v a => { a with r := v },
   .required "nominalV" (·.nominalV) fun v a => { a with nominalV := v },
   .required "activePowerSetpoint" (·.activePowerSetpoint)
     fun v a => { a with activePowerSetpoint := v },
   .required "maxP" (·.maxP) fun v a => { a with maxP := v },
   .defaulted "convertersMode" default (·.convertersMode)
     fun v a => { a with convertersMode := v },
   .required "converterStationId1" (·.converterStationId1)
     fun v a => { a with converterStationId1 := v },
   .required "converterStationId2" (·.converterStationId2)
     fun v a => { a with converterStationId2 := v },
   .optional "angleDroop" (·.angleDroop) fun v a => { a with angleDroop := v },
   .optional "operatorRange" (·.operatorRange) fun v a => { a with operatorRange := v }]

/-- The columns. -/
def mapping : Mapping HvdcLine where
  kind := .equipment .hvdcLine
  fields := identification ++ own
  containers := []
  updateKey := none

/-- The members of objects. -/
def members : List (Member HvdcLine) :=
  (identification ++ own).map (·.toMember)

end HvdcLine

end GridStore
