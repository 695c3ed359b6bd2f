import GridStore.Attributes.Shared

/-!
# Topology

What voltage levels are built of.
-/

namespace GridStore

/-- The attributes of a busbar section. -/
structure BusbarSection extends Identification where
  voltageLevelId : String
  node : Int32
  v : Option Binary64
  angle : Option Binary64
  position : Option ConnectablePosition
deriving BEq, Inhabited

namespace BusbarSection

/-- The name, the properties and whether the equipment is a fictitious one. -/
def identification : List (Field BusbarSection) :=
  Identification.fields.map
    (·.within (·.toIdentification) fun v a => { a with toIdentification := v })

/-- The voltage level. -/
def container : List (Field BusbarSection) :=
  [.required "voltageLevelId" (·.voltageLevelId) fun v a => { a with voltageLevelId := v }]

/-- The node and the voltage of a busbar section. -/
def own : List (Field BusbarSection) :=
  [.required "node" (·.node) fun v a => { a with node := v },
   .optional "v" (·.v) fun v a => { a with v := v },
   .optional "angle" (·.angle) fun v a => { a with angle := v },
   .optional "position" (·.position) fun v a => { a with position := v }]

/-- The columns. -/
def mapping : Mapping BusbarSection where
  kind := .equipment .busbarSection
  fields := identification ++ container ++ own
  containers := ["voltageLevelId"]
  updateKey := some "voltageLevelId"

/-- The members of objects. -/
def members : List (Member BusbarSection) :=
  (container ++ identification ++ own).map (·.toMember)

end BusbarSection

/-- The attributes of a switch. -/
structure Switch extends Identification where
  voltageLevelId : String
  kind : SwitchKind
  node1 : Option Int32
  node2 : Option Int32
  bus1 : Option String
  bus2 : Option String
  isOpen : Bool
  retained : Bool
deriving BEq, Inhabited

namespace Switch

/-- The name, the properties and whether the equipment is a fictitious one. -/
def identification : List (Field Switch) :=
  Identification.fields.map
    (·.within (·.toIdentification) fun v a => { a with toIdentification := v })

/-- The voltage level. -/
def container : List (Field Switch) :=
  [.required "voltageLevelId" (·.voltageLevelId) fun v a => { a with voltageLevelId := v }]

/-- The ends and the state of a switch. -/
def own : List (Field Switch) :=
  [.required "kind" (·.kind) fun v a => { a with kind := v },
   .optional "node1" (·.node1) fun v a => { a with node1 := v },
   .optional "node2" (·.node2) fun v a => { a with node2 := v },
   .optional "bus1" (·.bus1) fun v a => { a with bus1 := v },
   .optional "bus2" (·.bus2) fun v a => { a with bus2 := v },
   .defaulted "open" default (·.isOpen) fun v a => { a with isOpen := v },
   .defaulted "retained" default (·.retained) fun v a => { a with retained := v }]

/-- The columns. -/
def mapping : Mapping Switch where
  kind := .equipment .switch
  fields := identification ++ container ++ own
  containers := ["voltageLevelId"]
  updateKey := some "voltageLevelId"

/-- The members of objects. -/
def members : List (Member Switch) :=
  (container ++ identification ++ own).map (·.toMember)

end Switch

/-- The attributes of a bus of a bus-breaker topology. -/
structure ConfiguredBus extends Identification where
  voltageLevelId : String
  v : Option Binary64
  angle : Option Binary64
deriving BEq, Inhabited

namespace ConfiguredBus

/-- The name, the properties and whether the equipment is a fictitious one. -/
def identification : List (Field ConfiguredBus) :=
  Identification.fields.map
    (·.within (·.toIdentification) fun v a => { a with toIdentification := v })

/-- The voltage level. -/
def container : List (Field ConfiguredBus) :=
  [.required "voltageLevelId" (·.voltageLevelId) fun v a => { a with voltageLevelId := v }]

/-- The voltage of a bus. -/
def own : List (Field ConfiguredBus) :=
  [.optional "v" (·.v) fun v a => { a with v := v },
   .optional "angle" (·.angle) fun v a => { a with angle := v }]

/-- The columns. -/
def mapping : Mapping ConfiguredBus where
  kind := .equipment .configuredBus
  fields := identification ++ container ++ own
  containers := ["voltageLevelId"]
  updateKey := some "voltageLevelId"

/-- The members of objects. -/
def members : List (Member ConfiguredBus) :=
  (container ++ identification ++ own).map (·.toMember)

end ConfiguredBus

end GridStore
