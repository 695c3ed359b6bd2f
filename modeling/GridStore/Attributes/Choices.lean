import GridStore.Choice

/-!
# Choices among attributes

The first value of each type is the one that a field holds when none is given.
-/

namespace GridStore

/-- How a voltage level describes its topology. -/
inductive TopologyKind where
  | nodeBreaker
  | busBreaker
deriving DecidableEq, Repr, Inhabited

instance : Choice TopologyKind where
  name := "TopologyKind"
  all := [.nodeBreaker, .busBreaker]
  label
    | .nodeBreaker => "NODE_BREAKER"
    | .busBreaker => "BUS_BREAKER"

/-- What a switch is able to break. -/
inductive SwitchKind where
  | breaker
  | disconnector
  | loadBreakSwitch
deriving DecidableEq, Repr, Inhabited

instance : Choice SwitchKind where
  name := "SwitchKind"
  all := [.breaker, .disconnector, .loadBreakSwitch]
  label
    | .breaker => "BREAKER"
    | .disconnector => "DISCONNECTOR"
    | .loadBreakSwitch => "LOAD_BREAK_SWITCH"

/-- What a load stands for. -/
inductive LoadType where
  | undefined
  | auxiliary
  | fictitious
deriving DecidableEq, Repr, Inhabited

instance : Choice LoadType where
  name := "LoadType"
  all := [.undefined, .auxiliary, .fictitious]
  label
    | .undefined => "UNDEFINED"
    | .auxiliary => "AUXILIARY"
    | .fictitious => "FICTITIOUS"

/-- What drives a generator. -/
inductive EnergySource where
  | other
  | hydro
  | nuclear
  | wind
  | thermal
  | solar
deriving DecidableEq, Repr, Inhabited

instance : Choice EnergySource where
  name := "EnergySource"
  all := [.other, .hydro, .nuclear, .wind, .thermal, .solar]
  label
    | .other => "OTHER"
    | .hydro => "HYDRO"
    | .nuclear => "NUCLEAR"
    | .wind => "WIND"
    | .thermal => "THERMAL"
    | .solar => "SOLAR"

/-- What a static var compensator regulates. -/
inductive StaticVarCompensatorRegulationMode where
  | off
  | voltage
  | reactivePower
deriving DecidableEq, Repr, Inhabited

instance : Choice StaticVarCompensatorRegulationMode where
  name := "StaticVarCompensatorRegulationMode"
  all := [.off, .voltage, .reactivePower]
  label
    | .off => "OFF"
    | .voltage => "VOLTAGE"
    | .reactivePower => "REACTIVE_POWER"

/-- Which end of an HVDC line rectifies. -/
inductive HvdcConvertersMode where
  | side1RectifierSide2Inverter
  | side1InverterSide2Rectifier
deriving DecidableEq, Repr, Inhabited

instance : Choice HvdcConvertersMode where
  name := "HvdcConvertersMode"
  all := [.side1RectifierSide2Inverter, .side1InverterSide2Rectifier]
  label
    | .side1RectifierSide2Inverter => "SIDE_1_RECTIFIER_SIDE_2_INVERTER"
    | .side1InverterSide2Rectifier => "SIDE_1_INVERTER_SIDE_2_RECTIFIER"

/-- Where a feeder is drawn on its busbar. -/
inductive ConnectableDirection where
  | undefined
  | top
  | bottom
deriving DecidableEq, Repr, Inhabited

instance : Choice ConnectableDirection where
  name := "ConnectableDirection"
  all := [.undefined, .top, .bottom]
  label
    | .undefined => "UNDEFINED"
    | .top => "TOP"
    | .bottom => "BOTTOM"

/-- What a phase tap changer regulates. -/
inductive PhaseTapChangerRegulationMode where
  | fixedTap
  | currentLimiter
  | activePowerControl
deriving DecidableEq, Repr, Inhabited

instance : Choice PhaseTapChangerRegulationMode where
  name := "PhaseTapChangerRegulationMode"
  all := [.fixedTap, .currentLimiter, .activePowerControl]
  label
    | .fixedTap => "FIXED_TAP"
    | .currentLimiter => "CURRENT_LIMITER"
    | .activePowerControl => "ACTIVE_POWER_CONTROL"

/-- How a CGMES model describes its topology. -/
inductive CgmesTopologyKind where
  | nodeBreaker
  | busBranch
deriving DecidableEq, Repr, Inhabited

instance : Choice CgmesTopologyKind where
  name := "CgmesTopologyKind"
  all := [.nodeBreaker, .busBranch]
  label
    | .nodeBreaker => "NODE_BREAKER"
    | .busBranch => "BUS_BRANCH"

end GridStore
