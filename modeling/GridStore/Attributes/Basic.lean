import GridStore.Attributes.Branches
import GridStore.Attributes.Containers
import GridStore.Attributes.Injections
import GridStore.Attributes.Network
import GridStore.Attributes.Topology

/-!
# Attributes by kind

Each kind of resource has its type of attributes, with the mapping of its table and the members of
its objects.
-/

namespace GridStore

/-- A type of attributes. -/
class Attributes (A : Type) extends Inhabited A, BEq A where
  /-- The columns that hold the attributes. -/
  mapping : Mapping A
  /-- The members of the attributes' objects. -/
  members : List (Member A)

namespace Attributes

variable {A : Type} [Attributes A]

/-- How attributes are written as JSON. -/
def codec : JsonCodec A :=
  .record members default

/-- The kind whose attributes these are. -/
def kind (A : Type) [Attributes A] : Kind :=
  (mapping (A := A)).kind

/-- The mapped columns of the kind. -/
def schema (A : Type) [Attributes A] : TableSchema :=
  (mapping (A := A)).schema

end Attributes

instance : Attributes Network := { mapping := Network.mapping, members := Network.members }
instance : Attributes Substation := { mapping := Substation.mapping, members := Substation.members }
instance : Attributes VoltageLevel :=
  { mapping := VoltageLevel.mapping, members := VoltageLevel.members }
instance : Attributes Generator := { mapping := Generator.mapping, members := Generator.members }
instance : Attributes Battery := { mapping := Battery.mapping, members := Battery.members }
instance : Attributes Load := { mapping := Load.mapping, members := Load.members }
instance : Attributes ShuntCompensator :=
  { mapping := ShuntCompensator.mapping, members := ShuntCompensator.members }
instance : Attributes VscConverterStation :=
  { mapping := VscConverterStation.mapping, members := VscConverterStation.members }
instance : Attributes LccConverterStation :=
  { mapping := LccConverterStation.mapping, members := LccConverterStation.members }
instance : Attributes StaticVarCompensator :=
  { mapping := StaticVarCompensator.mapping, members := StaticVarCompensator.members }
instance : Attributes BusbarSection :=
  { mapping := BusbarSection.mapping, members := BusbarSection.members }
instance : Attributes Switch := { mapping := Switch.mapping, members := Switch.members }
instance : Attributes TwoWindingsTransformer :=
  { mapping := TwoWindingsTransformer.mapping, members := TwoWindingsTransformer.members }
instance : Attributes ThreeWindingsTransformer :=
  { mapping := ThreeWindingsTransformer.mapping, members := ThreeWindingsTransformer.members }
instance : Attributes Line := { mapping := Line.mapping, members := Line.members }
instance : Attributes HvdcLine := { mapping := HvdcLine.mapping, members := HvdcLine.members }
instance : Attributes DanglingLine :=
  { mapping := DanglingLine.mapping, members := DanglingLine.members }
instance : Attributes ConfiguredBus :=
  { mapping := ConfiguredBus.mapping, members := ConfiguredBus.members }

/-- The type of the attributes of a kind of equipment. -/
def EquipmentKind.Attributes : EquipmentKind → Type
  | .substation => Substation
  | .voltageLevel => VoltageLevel
  | .generator => Generator
  | .battery => Battery
  | .load => Load
  | .shuntCompensator => ShuntCompensator
  | .vscConverterStation => VscConverterStation
  | .lccConverterStation => LccConverterStation
  | .staticVarCompensator => StaticVarCompensator
  | .busbarSection => BusbarSection
  | .switch => Switch
  | .twoWindingsTransformer => TwoWindingsTransformer
  | .threeWindingsTransformer => ThreeWindingsTransformer
  | .line => Line
  | .hvdcLine => HvdcLine
  | .danglingLine => DanglingLine
  | .configuredBus => ConfiguredBus

instance (k : EquipmentKind) : Attributes k.Attributes :=
  match k with
  | .substation => inferInstanceAs (Attributes Substation)
  | .voltageLevel => inferInstanceAs (Attributes VoltageLevel)
  | .generator => inferInstanceAs (Attributes Generator)
  | .battery => inferInstanceAs (Attributes Battery)
  | .load => inferInstanceAs (Attributes Load)
  | .shuntCompensator => inferInstanceAs (Attributes ShuntCompensator)
  | .vscConverterStation => inferInstanceAs (Attributes VscConverterStation)
  | .lccConverterStation => inferInstanceAs (Attributes LccConverterStation)
  | .staticVarCompensator => inferInstanceAs (Attributes StaticVarCompensator)
  | .busbarSection => inferInstanceAs (Attributes BusbarSection)
  | .switch => inferInstanceAs (Attributes Switch)
  | .twoWindingsTransformer => inferInstanceAs (Attributes TwoWindingsTransformer)
  | .threeWindingsTransformer => inferInstanceAs (Attributes ThreeWindingsTransformer)
  | .line => inferInstanceAs (Attributes Line)
  | .hvdcLine => inferInstanceAs (Attributes HvdcLine)
  | .danglingLine => inferInstanceAs (Attributes DanglingLine)
  | .configuredBus => inferInstanceAs (Attributes ConfiguredBus)

/-- The type of the attributes of a kind. -/
def Kind.Attributes : Kind → Type
  | .network => Network
  | .equipment k => k.Attributes

instance (k : Kind) : Attributes k.Attributes :=
  match k with
  | .network => inferInstanceAs (Attributes Network)
  | .equipment k => inferInstanceAs (Attributes k.Attributes)

/-- The mapped columns of a kind of equipment. -/
def EquipmentKind.schema (k : EquipmentKind) : TableSchema :=
  Attributes.schema k.Attributes

/-- The mapped columns of a kind. -/
def Kind.schema (k : Kind) : TableSchema :=
  Attributes.schema k.Attributes

end GridStore
