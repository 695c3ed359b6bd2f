/-!
# Kinds of resource

A store holds networks and seventeen kinds of equipment. Every kind has a table of its own and a
label by which documents name it. The order of `EquipmentKind.all` is the order in which anything
that touches all equipment tables visits them; the network comes before them in `Kind.all`.
-/

namespace GridStore

/-- The kinds of equipment. -/
inductive EquipmentKind where
  | substation
  | voltageLevel
  | generator
  | battery
  | load
  | shuntCompensator
  | vscConverterStation
  | lccConverterStation
  | staticVarCompensator
  | busbarSection
  | switch
  | twoWindingsTransformer
  | threeWindingsTransformer
  | line
  | hvdcLine
  | danglingLine
  | configuredBus
deriving DecidableEq, Repr, Inhabited

namespace EquipmentKind

/-- Every kind of equipment, in the order in which tables are visited. -/
def all : List EquipmentKind :=
  [.substation, .voltageLevel, .generator, .battery, .load, .shuntCompensator,
    .vscConverterStation, .lccConverterStation, .staticVarCompensator, .busbarSection, .switch,
    .twoWindingsTransformer, .threeWindingsTransformer, .line, .hvdcLine, .danglingLine,
    .configuredBus]

theorem mem_all (k : EquipmentKind) : k ∈ all := by
  cases k <;> decide

/-- The table of the kind. -/
def table : EquipmentKind → String
  | substation => "substation"
  | voltageLevel => "voltageLevel"
  | generator => "generator"
  | battery => "battery"
  | load => "load"
  | shuntCompensator => "shuntCompensator"
  | vscConverterStation => "vscConverterStation"
  | lccConverterStation => "lccConverterStation"
  | staticVarCompensator => "staticVarCompensator"
  | busbarSection => "busbarSection"
  | switch => "switch"
  | twoWindingsTransformer => "twoWindingsTransformer"
  | threeWindingsTransformer => "threeWindingsTransformer"
  | line => "line"
  | hvdcLine => "hvdcLine"
  | danglingLine => "danglingLine"
  | configuredBus => "configuredBus"

/-- The name of the kind in documents. -/
def label : EquipmentKind → String
  | substation => "SUBSTATION"
  | voltageLevel => "VOLTAGE_LEVEL"
  | generator => "GENERATOR"
  | battery => "BATTERY"
  | load => "LOAD"
  | shuntCompensator => "SHUNT_COMPENSATOR"
  | vscConverterStation => "VSC_CONVERTER_STATION"
  | lccConverterStation => "LCC_CONVERTER_STATION"
  | staticVarCompensator => "STATIC_VAR_COMPENSATOR"
  | busbarSection => "BUSBAR_SECTION"
  | switch => "SWITCH"
  | twoWindingsTransformer => "TWO_WINDINGS_TRANSFORMER"
  | threeWindingsTransformer => "THREE_WINDINGS_TRANSFORMER"
  | line => "LINE"
  | hvdcLine => "HVDC_LINE"
  | danglingLine => "DANGLING_LINE"
  | configuredBus => "CONFIGURED_BUS"

/-- The name of all equipment of the kind. -/
def collection : EquipmentKind → String
  | substation => "substations"
  | voltageLevel => "voltage_levels"
  | generator => "generators"
  | battery => "batteries"
  | load => "loads"
  | shuntCompensator => "shunt_compensators"
  | vscConverterStation => "vsc_converter_stations"
  | lccConverterStation => "lcc_converter_stations"
  | staticVarCompensator => "static_var_compensators"
  | busbarSection => "busbar_sections"
  | switch => "switches"
  | twoWindingsTransformer => "two_windings_transformers"
  | threeWindingsTransformer => "three_windings_transformers"
  | line => "lines"
  | hvdcLine => "hvdc_lines"
  | danglingLine => "dangling_lines"
  | configuredBus => "configured_buses"

end EquipmentKind

/-- The kinds of resource. -/
inductive Kind where
  | network
  | equipment (kind : EquipmentKind)
deriving DecidableEq, Repr, Inhabited

namespace Kind

/-- Every kind, the network first. -/
def all : List Kind :=
  .network :: EquipmentKind.all.map .equipment

/-- The table of the kind. -/
def table : Kind → String
  | network => "network"
  | equipment k => k.table

/-- The name of the kind in documents. -/
def label : Kind → String
  | network => "NETWORK"
  | equipment k => k.label

/-- Whether the kind is the network itself. -/
def isNetwork : Kind → Bool
  | network => true
  | equipment _ => false

end Kind

end GridStore
