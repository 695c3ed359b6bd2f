import GridStore.Attributes.Values
import GridStore.Mapping.Basic

/-!
# Shared attributes

Groups of fields that several kinds of equipment have in common. A kind's columns and the members
of its objects hold the same groups, but not in the same order: columns start with the
identification, objects with the containers.
-/

namespace GridStore

/-- What every equipment has beside its id. -/
structure Identification where
  name : Option String
  fictitious : Bool
  properties : Properties
deriving BEq, Inhabited

/-- The fields of an identification. -/
def Identification.fields : List (Field Identification) :=
  [.optional "name" (·.name) fun v a => { a with name := v },
   .defaulted "fictitious" default (·.fictitious) fun v a => { a with fictitious := v },
   .defaulted "properties" default (·.properties) fun v a => { a with properties := v }]

/-- How an equipment with one terminal is connected to its voltage level. -/
structure Connection where
  voltageLevelId : String
  node : Option Int32
  bus : Option String
  connectableBus : Option String
  p : Option Binary64
  q : Option Binary64
  position : Option ConnectablePosition
deriving BEq, Inhabited

/-- The voltage level of a connection. -/
def Connection.container : List (Field Connection) :=
  [.required "voltageLevelId" (·.voltageLevelId) fun v a => { a with voltageLevelId := v }]

/-- The terminal of a connection. -/
def Connection.terminal : List (Field Connection) :=
  [.optional "node" (·.node) fun v a => { a with node := v },
   .optional "bus" (·.bus) fun v a => { a with bus := v },
   .optional "connectableBus" (·.connectableBus) fun v a => { a with connectableBus := v },
   .optional "p" (·.p) fun v a => { a with p := v },
   .optional "q" (·.q) fun v a => { a with q := v },
   .optional "position" (·.position) fun v a => { a with position := v }]

/-- How the two ends of a branch are connected. -/
structure BranchEnds where
  voltageLevelId1 : String
  voltageLevelId2 : String
  node1 : Option Int32
  node2 : Option Int32
  bus1 : Option String
  bus2 : Option String
  connectableBus1 : Option String
  connectableBus2 : Option String
  p1 : Option Binary64
  q1 : Option Binary64
  p2 : Option Binary64
  q2 : Option Binary64
  position1 : Option ConnectablePosition
  position2 : Option ConnectablePosition
  currentLimits1 : Option CurrentLimits
  currentLimits2 : Option CurrentLimits
deriving BEq, Inhabited

/-- The voltage levels of a branch. -/
def BranchEnds.containers : List (Field BranchEnds) :=
  [.required "voltageLevelId1" (·.voltageLevelId1) fun v a => { a with voltageLevelId1 := v },
   .required "voltageLevelId2" (·.voltageLevelId2) fun v a => { a with voltageLevelId2 := v }]

/-- The terminals of a branch. -/
def BranchEnds.terminals : List (Field BranchEnds) :=
  [.optional "node1" (·.node1) fun v a => { a with node1 := v },
   .optional "node2" (·.node2) fun v a => { a with node2 := v },
   .optional "bus1" (·.bus1) fun v a => { a with bus1 := v },
   .optional "bus2" (·.bus2) fun v a => { a with bus2 := v },
   .optional "connectableBus1" (·.connectableBus1) fun v a => { a with connectableBus1 := v },
   .optional "connectableBus2" (·.connectableBus2) fun v a => { a with connectableBus2 := v }]

/-- The flows into a branch. -/
def BranchEnds.flows : List (Field BranchEnds) :=
  [.optional "p1" (·.p1) fun v a => { a with p1 := v },
   .optional "q1" (·.q1) fun v a => { a with q1 := v },
   .optional "p2" (·.p2) fun v a => { a with p2 := v },
   .optional "q2" (·.q2) fun v a => { a with q2 := v }]

/-- Where a branch is drawn. -/
def BranchEnds.positions : List (Field BranchEnds) :=
  [.optional "position1" (·.position1) fun v a => { a with position1 := v },
   .optional "position2" (·.position2) fun v a => { a with position2 := v }]

/-- The limits of the currents in a branch. -/
def BranchEnds.limits : List (Field BranchEnds) :=
  [.optional "currentLimits1" (·.currentLimits1) fun v a => { a with currentLimits1 := v },
   .optional "currentLimits2" (·.currentLimits2) fun v a => { a with currentLimits2 := v }]

end GridStore
