import GridStore.Proofs.Fields

/-!
# Attributes of every kind read back

For each kind of equipment: its attributes as its table gives them back, which is as they were but
for the signs of zeros in columns of reals, and the container that an update looks for. Every field
has a column that keeps it, and the fields make up the attributes (`StoredAttributes`). What holds for
the fields of the groups that kinds share and for those that each kind has alone, and stays when a
field becomes part of a larger record, holds for the fields of every kind
(`EquipmentKind.forall_fields`).
-/

namespace GridStore

/-! ## Shared groups of fields -/

section Groups

variable {B : Type} {P : Field B → Prop} {getI : B → Identification} {setI : Identification → B → B}
  {containers own : List (Field B)}

theorem Field.forall_identified (hI : ∀ f ∈ Identification.fields, P (f.within getI setI))
    (hown : ∀ f ∈ own, P f) :
    ∀ f ∈ Identification.fields.map (·.within getI setI) ++ own, P f :=
  List.forall_mem_append.2 ⟨List.forall_mem_map.2 hI, hown⟩

theorem Field.forall_contained (hI : ∀ f ∈ Identification.fields, P (f.within getI setI))
    (hown : ∀ f ∈ containers ++ own, P f) :
    ∀ f ∈ Identification.fields.map (·.within getI setI) ++ containers ++ own, P f := by
  rw [List.append_assoc]
  exact Field.forall_identified hI hown

theorem Field.forall_injection {getC : B → Connection} {setC : Connection → B → B}
    (hI : ∀ f ∈ Identification.fields, P (f.within getI setI))
    (hC : ∀ f ∈ Connection.container ++ Connection.terminal, P (f.within getC setC))
    (hown : ∀ f ∈ own, P f) :
    ∀ f ∈ Identification.fields.map (·.within getI setI) ++
      Connection.container.map (·.within getC setC) ++
      Connection.terminal.map (·.within getC setC) ++ own, P f := by
  rw [List.append_assoc _ (Connection.container.map _), ← List.map_append]
  exact Field.forall_contained hI (List.forall_mem_append.2 ⟨List.forall_mem_map.2 hC, hown⟩)

theorem Field.forall_branch {getE : B → BranchEnds} {setE : BranchEnds → B → B}
    (hI : ∀ f ∈ Identification.fields, P (f.within getI setI))
    (hE : ∀ f ∈ BranchEnds.containers ++ BranchEnds.terminals ++ BranchEnds.flows ++
      BranchEnds.positions ++ BranchEnds.limits, P (f.within getE setE))
    (hown : ∀ f ∈ own, P f) :
    ∀ f ∈ Identification.fields.map (·.within getI setI) ++
      BranchEnds.containers.map (·.within getE setE) ++
      BranchEnds.terminals.map (·.within getE setE) ++ BranchEnds.flows.map (·.within getE setE) ++
      BranchEnds.positions.map (·.within getE setE) ++ BranchEnds.limits.map (·.within getE setE) ++
      own, P f := by
  have hfields := Field.forall_contained hI
    (List.forall_mem_append.2 ⟨List.forall_mem_map.2 hE, hown⟩)
  simp only [List.map_append, ← List.append_assoc] at hfields
  exact hfields

end Groups

/-- The fields that a kind has alone have a property. -/
def EquipmentKind.ForallOwn (P : (A : Type) → Field A → Prop) : EquipmentKind → Prop
  | .substation => ∀ f ∈ Substation.own, P _ f
  | .voltageLevel => ∀ f ∈ VoltageLevel.container ++ VoltageLevel.own, P _ f
  | .generator => ∀ f ∈ Generator.own, P _ f
  | .battery => ∀ f ∈ Battery.own, P _ f
  | .load => ∀ f ∈ Load.own, P _ f
  | .shuntCompensator => ∀ f ∈ ShuntCompensator.own, P _ f
  | .vscConverterStation => ∀ f ∈ VscConverterStation.own, P _ f
  | .lccConverterStation => ∀ f ∈ LccConverterStation.own, P _ f
  | .staticVarCompensator => ∀ f ∈ StaticVarCompensator.own, P _ f
  | .busbarSection => ∀ f ∈ BusbarSection.container ++ BusbarSection.own, P _ f
  | .switch => ∀ f ∈ Switch.container ++ Switch.own, P _ f
  | .twoWindingsTransformer =>
    ∀ f ∈ TwoWindingsTransformer.windings ++ TwoWindingsTransformer.tapChangers, P _ f
  | .threeWindingsTransformer =>
    ∀ f ∈ ThreeWindingsTransformer.containers ++ ThreeWindingsTransformer.own, P _ f
  | .line => ∀ f ∈ Line.impedance, P _ f
  | .hvdcLine => ∀ f ∈ HvdcLine.own, P _ f
  | .danglingLine => ∀ f ∈ DanglingLine.own, P _ f
  | .configuredBus => ∀ f ∈ ConfiguredBus.container ++ ConfiguredBus.own, P _ f

/-- A property that a field keeps as part of a larger record holds for the fields of every kind, if it
holds for the fields of the shared groups and for those that a kind has alone. -/
theorem EquipmentKind.forall_fields {P : (A : Type) → Field A → Prop}
    (hwithin : ∀ {A B : Type} {f : Field A} (get : B → A) (set : A → B → B),
      P A f → P B (f.within get set))
    (hidentification : ∀ f ∈ Identification.fields, P _ f)
    (hconnection : ∀ f ∈ Connection.container ++ Connection.terminal, P _ f)
    (hends : ∀ f ∈ BranchEnds.containers ++ BranchEnds.terminals ++ BranchEnds.flows ++
      BranchEnds.positions ++ BranchEnds.limits, P _ f)
    (hown : ∀ k : EquipmentKind, k.ForallOwn P) (k : EquipmentKind) :
    ∀ f ∈ (Attributes.mapping (A := k.Attributes)).fields, P _ f := by
  have hI {B : Type} {get : B → Identification} {set : Identification → B → B} :
      ∀ f ∈ Identification.fields, P B (f.within get set) :=
    fun f hf => hwithin get set (hidentification f hf)
  have hC {B : Type} {get : B → Connection} {set : Connection → B → B} :
      ∀ f ∈ Connection.container ++ Connection.terminal, P B (f.within get set) :=
    fun f hf => hwithin get set (hconnection f hf)
  have hE {B : Type} {get : B → BranchEnds} {set : BranchEnds → B → B} :
      ∀ f ∈ BranchEnds.containers ++ BranchEnds.terminals ++ BranchEnds.flows ++
        BranchEnds.positions ++ BranchEnds.limits, P B (f.within get set) :=
    fun f hf => hwithin get set (hends f hf)
  have h := hown k
  cases k with
  | substation | hvdcLine => exact Field.forall_identified hI h
  | voltageLevel | busbarSection | switch | threeWindingsTransformer | configuredBus =>
    exact Field.forall_contained hI h
  | generator | battery | load | shuntCompensator | vscConverterStation | lccConverterStation
  | staticVarCompensator | danglingLine => exact Field.forall_injection hI hC h
  | line => exact Field.forall_branch hI hE h
  | twoWindingsTransformer =>
    obtain ⟨hwindings, htapChangers⟩ := List.forall_mem_append.1 h
    exact List.forall_mem_append.2 ⟨Field.forall_branch hI hE hwindings, htapChangers⟩

section Within

variable {B : Type} {settledB : B → B}

theorem Identification.keeps_within {get : B → Identification} {set : Identification → B → B}
    (h : ∀ b, get (settledB b) = get b) :
    ∀ f ∈ Identification.fields, (f.within get set).Keeps settledB := by
  have hkeeps : ∀ f ∈ Identification.fields, f.Keeps id := by
    simp [Identification.fields]
  exact fun f hf => (hkeeps f hf).within h

/-- A connection as its columns give it back. -/
@[reducible]
def Connection.settled (a : Connection) : Connection :=
  { a with p := a.p.map Binary64.settled, q := a.q.map Binary64.settled }

theorem Connection.keeps_within {get : B → Connection} {set : Connection → B → B}
    (h : ∀ b, get (settledB b) = (get b).settled) :
    ∀ f ∈ Connection.container ++ Connection.terminal, (f.within get set).Keeps settledB := by
  have hkeeps : ∀ f ∈ Connection.container ++ Connection.terminal, f.Keeps Connection.settled := by
    simp [Connection.container, Connection.terminal]
  exact fun f hf => (hkeeps f hf).within h

/-- The ends of a branch as their columns give them back. -/
@[reducible]
def BranchEnds.settled (a : BranchEnds) : BranchEnds :=
  { a with
    p1 := a.p1.map Binary64.settled
    q1 := a.q1.map Binary64.settled
    p2 := a.p2.map Binary64.settled
    q2 := a.q2.map Binary64.settled }

theorem BranchEnds.keeps_within {get : B → BranchEnds} {set : BranchEnds → B → B}
    (h : ∀ b, get (settledB b) = (get b).settled) :
    ∀ f ∈ BranchEnds.containers ++ BranchEnds.terminals ++ BranchEnds.flows ++
      BranchEnds.positions ++ BranchEnds.limits, (f.within get set).Keeps settledB := by
  have hkeeps : ∀ f ∈ BranchEnds.containers ++ BranchEnds.terminals ++ BranchEnds.flows ++
      BranchEnds.positions ++ BranchEnds.limits, f.Keeps BranchEnds.settled := by
    simp [BranchEnds.containers, BranchEnds.terminals, BranchEnds.flows, BranchEnds.positions,
      BranchEnds.limits]
  exact fun f hf => (hkeeps f hf).within h

end Within

/-! ## Substations and voltage levels -/

instance : StoredAttributes Substation where
  settled := id
  containerId _ := none
  keeps := Field.forall_identified (Identification.keeps_within fun _ => rfl)
    (by simp [Substation.own])
  covers := by
    rintro ⟨⟨_, _, _⟩, _⟩ _
    rfl
  sameKey_iff a b := by
    simp [Attributes.mapping, Substation.mapping]

@[reducible]
def VoltageLevel.settled (a : VoltageLevel) : VoltageLevel :=
  { a with
    nominalV := a.nominalV.settled
    lowVoltageLimit := a.lowVoltageLimit.map Binary64.settled
    highVoltageLimit := a.highVoltageLimit.map Binary64.settled }

instance : StoredAttributes VoltageLevel where
  settled := VoltageLevel.settled
  containerId a := some a.substationId
  keeps := Field.forall_contained (Identification.keeps_within fun _ => rfl)
    (by simp [VoltageLevel.container, VoltageLevel.own])
  covers := by
    rintro ⟨⟨_, _, _⟩, _⟩ _
    rfl
  sameKey_iff a b := by
    simp [Attributes.mapping, VoltageLevel.mapping, VoltageLevel.identification,
      Identification.fields, VoltageLevel.container, VoltageLevel.own]

/-! ## Injections -/

@[reducible]
def Generator.settled (a : Generator) : Generator :=
  { a with
    toConnection := a.toConnection.settled
    minP := a.minP.settled
    maxP := a.maxP.settled
    targetP := a.targetP.settled
    targetQ := a.targetQ.settled
    ratedS := a.ratedS.map Binary64.settled
    targetV := a.targetV.map Binary64.settled }

instance : StoredAttributes Generator where
  settled := Generator.settled
  containerId a := some a.voltageLevelId
  keeps := Field.forall_injection (Identification.keeps_within fun _ => rfl)
    (Connection.keeps_within fun _ => rfl) (by simp [Generator.own])
  covers := by
    rintro ⟨⟨_, _, _⟩, ⟨_, _, _, _, _, _, _⟩, _⟩ _
    rfl
  sameKey_iff a b := by
    simp [Attributes.mapping, Generator.mapping, Generator.identification, Identification.fields,
      Generator.container, Connection.container, Generator.terminal, Connection.terminal,
      Generator.own]

@[reducible]
def Battery.settled (a : Battery) : Battery :=
  { a with
    toConnection := a.toConnection.settled
    p0 := a.p0.settled
    q0 := a.q0.settled
    minP := a.minP.settled
    maxP := a.maxP.settled }

instance : StoredAttributes Battery where
  settled := Battery.settled
  containerId a := some a.voltageLevelId
  keeps := Field.forall_injection (Identification.keeps_within fun _ => rfl)
    (Connection.keeps_within fun _ => rfl) (by simp [Battery.own])
  covers := by
    rintro ⟨⟨_, _, _⟩, ⟨_, _, _, _, _, _, _⟩, _⟩ _
    rfl
  sameKey_iff a b := by
    simp [Attributes.mapping, Battery.mapping, Battery.identification, Identification.fields,
      Battery.container, Connection.container, Battery.terminal, Connection.terminal, Battery.own]

@[reducible]
def Load.settled (a : Load) : Load :=
  { a with toConnection := a.toConnection.settled, p0 := a.p0.settled, q0 := a.q0.settled }

instance : StoredAttributes Load where
  settled := Load.settled
  containerId a := some a.voltageLevelId
  keeps := Field.forall_injection (Identification.keeps_within fun _ => rfl)
    (Connection.keeps_within fun _ => rfl) (by simp [Load.own])
  covers := by
    rintro ⟨⟨_, _, _⟩, ⟨_, _, _, _, _, _, _⟩, _⟩ _
    rfl
  sameKey_iff a b := by
    simp [Attributes.mapping, Load.mapping, Load.identification, Identification.fields,
      Load.container, Connection.container, Load.terminal, Connection.terminal, Load.own]

@[reducible]
def ShuntCompensator.settled (a : ShuntCompensator) : ShuntCompensator :=
  { a with
    toConnection := a.toConnection.settled
    targetV := a.targetV.map Binary64.settled
    targetDeadband := a.targetDeadband.map Binary64.settled }

instance : StoredAttributes ShuntCompensator where
  settled := ShuntCompensator.settled
  containerId a := some a.voltageLevelId
  keeps := Field.forall_injection (Identification.keeps_within fun _ => rfl)
    (Connection.keeps_within fun _ => rfl) (by simp [ShuntCompensator.own])
  covers := by
    rintro ⟨⟨_, _, _⟩, ⟨_, _, _, _, _, _, _⟩, _⟩ _
    rfl
  sameKey_iff a b := by
    simp [Attributes.mapping, ShuntCompensator.mapping, ShuntCompensator.identification,
      Identification.fields, ShuntCompensator.container, Connection.container,
      ShuntCompensator.terminal, Connection.terminal, ShuntCompensator.own]

@[reducible]
def VscConverterStation.settled (a : VscConverterStation) : VscConverterStation :=
  { a with
    toConnection := a.toConnection.settled
    lossFactor := a.lossFactor.settled
    reactivePowerSetpoint := a.reactivePowerSetpoint.map Binary64.settled
    voltageSetpoint := a.voltageSetpoint.map Binary64.settled }

instance : StoredAttributes VscConverterStation where
  settled := VscConverterStation.settled
  containerId a := some a.voltageLevelId
  keeps := Field.forall_injection (Identification.keeps_within fun _ => rfl)
    (Connection.keeps_within fun _ => rfl) (by simp [VscConverterStation.own])
  covers := by
    rintro ⟨⟨_, _, _⟩, ⟨_, _, _, _, _, _, _⟩, _⟩ _
    rfl
  sameKey_iff a b := by
    simp [Attributes.mapping, VscConverterStation.mapping, VscConverterStation.identification,
      Identification.fields, VscConverterStation.container, Connection.container,
      VscConverterStation.terminal, Connection.terminal, VscConverterStation.own]

@[reducible]
def LccConverterStation.settled (a : LccConverterStation) : LccConverterStation :=
  { a with
    toConnection := a.toConnection.settled
    lossFactor := a.lossFactor.settled
    powerFactor := a.powerFactor.settled }

instance : StoredAttributes LccConverterStation where
  settled := LccConverterStation.settled
  containerId a := some a.voltageLevelId
  keeps := Field.forall_injection (Identification.keeps_within fun _ => rfl)
    (Connection.keeps_within fun _ => rfl) (by simp [LccConverterStation.own])
  covers := by
    rintro ⟨⟨_, _, _⟩, ⟨_, _, _, _, _, _, _⟩, _⟩ _
    rfl
  sameKey_iff a b := by
    simp [Attributes.mapping, LccConverterStation.mapping, LccConverterStation.identification,
      Identification.fields, LccConverterStation.container, Connection.container,
      LccConverterStation.terminal, Connection.terminal, LccConverterStation.own]

@[reducible]
def StaticVarCompensator.settled (a : StaticVarCompensator) : StaticVarCompensator :=
  { a with
    toConnection := a.toConnection.settled
    bmin := a.bmin.settled
    bmax := a.bmax.settled
    voltageSetpoint := a.voltageSetpoint.map Binary64.settled
    reactivePowerSetpoint := a.reactivePowerSetpoint.map Binary64.settled }

instance : StoredAttributes StaticVarCompensator where
  settled := StaticVarCompensator.settled
  containerId a := some a.voltageLevelId
  keeps := Field.forall_injection (Identification.keeps_within fun _ => rfl)
    (Connection.keeps_within fun _ => rfl) (by simp [StaticVarCompensator.own])
  covers := by
    rintro ⟨⟨_, _, _⟩, ⟨_, _, _, _, _, _, _⟩, _⟩ _
    rfl
  sameKey_iff a b := by
    simp [Attributes.mapping, StaticVarCompensator.mapping, StaticVarCompensator.identification,
      Identification.fields, StaticVarCompensator.container, Connection.container,
      StaticVarCompensator.terminal, Connection.terminal, StaticVarCompensator.own]

@[reducible]
def DanglingLine.settled (a : DanglingLine) : DanglingLine :=
  { a with
    toConnection := a.toConnection.settled
    p0 := a.p0.settled
    q0 := a.q0.settled
    r := a.r.settled
    x := a.x.settled
    g := a.g.settled
    b := a.b.settled }

instance : StoredAttributes DanglingLine where
  settled := DanglingLine.settled
  containerId a := some a.voltageLevelId
  keeps := Field.forall_injection (Identification.keeps_within fun _ => rfl)
    (Connection.keeps_within fun _ => rfl) (by simp [DanglingLine.own])
  covers := by
    rintro ⟨⟨_, _, _⟩, ⟨_, _, _, _, _, _, _⟩, _⟩ _
    rfl
  sameKey_iff a b := by
    simp [Attributes.mapping, DanglingLine.mapping, DanglingLine.identification,
      Identification.fields, DanglingLine.container, Connection.container, DanglingLine.terminal,
      Connection.terminal, DanglingLine.own]

/-! ## Topology -/

@[reducible]
def BusbarSection.settled (a : BusbarSection) : BusbarSection :=
  { a with v := a.v.map Binary64.settled, angle := a.angle.map Binary64.settled }

instance : StoredAttributes BusbarSection where
  settled := BusbarSection.settled
  containerId a := some a.voltageLevelId
  keeps := Field.forall_contained (Identification.keeps_within fun _ => rfl)
    (by simp [BusbarSection.container, BusbarSection.own])
  covers := by
    rintro ⟨⟨_, _, _⟩, _⟩ _
    rfl
  sameKey_iff a b := by
    simp [Attributes.mapping, BusbarSection.mapping, BusbarSection.identification,
      Identification.fields, BusbarSection.container, BusbarSection.own]

instance : StoredAttributes Switch where
  settled := id
  containerId a := some a.voltageLevelId
  keeps := Field.forall_contained (Identification.keeps_within fun _ => rfl)
    (by simp [Switch.container, Switch.own])
  covers := by
    rintro ⟨⟨_, _, _⟩, _⟩ _
    rfl
  sameKey_iff a b := by
    simp [Attributes.mapping, Switch.mapping, Switch.identification, Identification.fields,
      Switch.container, Switch.own]

@[reducible]
def ConfiguredBus.settled (a : ConfiguredBus) : ConfiguredBus :=
  { a with v := a.v.map Binary64.settled, angle := a.angle.map Binary64.settled }

instance : StoredAttributes ConfiguredBus where
  settled := ConfiguredBus.settled
  containerId a := some a.voltageLevelId
  keeps := Field.forall_contained (Identification.keeps_within fun _ => rfl)
    (by simp [ConfiguredBus.container, ConfiguredBus.own])
  covers := by
    rintro ⟨⟨_, _, _⟩, _⟩ _
    rfl
  sameKey_iff a b := by
    simp [Attributes.mapping, ConfiguredBus.mapping, ConfiguredBus.identification,
      Identification.fields, ConfiguredBus.container, ConfiguredBus.own]

/-! ## Branches -/

@[reducible]
def Line.settled (a : Line) : Line :=
  { a with
    toBranchEnds := a.toBranchEnds.settled
    r := a.r.settled
    x := a.x.settled
    g1 := a.g1.settled
    b1 := a.b1.settled
    g2 := a.g2.settled
    b2 := a.b2.settled }

instance : StoredAttributes Line where
  settled := Line.settled
  containerId _ := none
  keeps := Field.forall_branch (Identification.keeps_within fun _ => rfl)
    (BranchEnds.keeps_within fun _ => rfl) (by simp [Line.impedance])
  covers := by
    rintro ⟨⟨_, _, _⟩, ⟨_, _, _, _, _, _, _, _, _, _, _, _, _, _, _, _⟩, _⟩ _
    rfl
  sameKey_iff a b := by
    simp [Attributes.mapping, Line.mapping]

@[reducible]
def TwoWindingsTransformer.settled (a : TwoWindingsTransformer) : TwoWindingsTransformer :=
  { a with
    toBranchEnds := a.toBranchEnds.settled
    r := a.r.settled
    x := a.x.settled
    g := a.g.settled
    b := a.b.settled
    ratedU1 := a.ratedU1.settled
    ratedU2 := a.ratedU2.settled
    ratedS := a.ratedS.map Binary64.settled }

instance : StoredAttributes TwoWindingsTransformer where
  settled := TwoWindingsTransformer.settled
  containerId _ := none
  keeps := by
    have hwindings : ∀ f ∈ TwoWindingsTransformer.windings,
        f.Keeps TwoWindingsTransformer.settled := by
      simp [TwoWindingsTransformer.windings]
    have htapChangers : ∀ f ∈ TwoWindingsTransformer.tapChangers,
        f.Keeps TwoWindingsTransformer.settled := by
      simp [TwoWindingsTransformer.tapChangers]
    exact List.forall_mem_append.2 ⟨Field.forall_branch (Identification.keeps_within fun _ => rfl)
      (BranchEnds.keeps_within fun _ => rfl) hwindings, htapChangers⟩
  covers := by
    rintro ⟨⟨_, _, _⟩, ⟨_, _, _, _, _, _, _, _, _, _, _, _, _, _, _, _⟩, _⟩ _
    rfl
  sameKey_iff a b := by
    simp [Attributes.mapping, TwoWindingsTransformer.mapping]

@[reducible]
def ThreeWindingsTransformer.settled (a : ThreeWindingsTransformer) : ThreeWindingsTransformer :=
  { a with
    ratedU0 := a.ratedU0.settled
    p1 := a.p1.map Binary64.settled
    q1 := a.q1.map Binary64.settled
    p2 := a.p2.map Binary64.settled
    q2 := a.q2.map Binary64.settled
    p3 := a.p3.map Binary64.settled
    q3 := a.q3.map Binary64.settled }

instance : StoredAttributes ThreeWindingsTransformer where
  settled := ThreeWindingsTransformer.settled
  containerId _ := none
  keeps := Field.forall_contained (Identification.keeps_within fun _ => rfl)
    (by simp [ThreeWindingsTransformer.containers, ThreeWindingsTransformer.own])
  covers := by
    rintro ⟨⟨_, _, _⟩, _⟩ _
    rfl
  sameKey_iff a b := by
    simp [Attributes.mapping, ThreeWindingsTransformer.mapping]

@[reducible]
def HvdcLine.settled (a : HvdcLine) : HvdcLine :=
  { a with
    r := a.r.settled
    nominalV := a.nominalV.settled
    activePowerSetpoint := a.activePowerSetpoint.settled
    maxP := a.maxP.settled }

instance : StoredAttributes HvdcLine where
  settled := HvdcLine.settled
  containerId _ := none
  keeps := Field.forall_identified (Identification.keeps_within fun _ => rfl)
    (by simp [HvdcLine.own])
  covers := by
    rintro ⟨⟨_, _, _⟩, _⟩ _
    rfl
  sameKey_iff a b := by
    simp [Attributes.mapping, HvdcLine.mapping]

/-! ## Every kind -/

instance (k : EquipmentKind) : StoredAttributes k.Attributes :=
  match k with
  | .substation => inferInstanceAs (StoredAttributes Substation)
  | .voltageLevel => inferInstanceAs (StoredAttributes VoltageLevel)
  | .generator => inferInstanceAs (StoredAttributes Generator)
  | .battery => inferInstanceAs (StoredAttributes Battery)
  | .load => inferInstanceAs (StoredAttributes Load)
  | .shuntCompensator => inferInstanceAs (StoredAttributes ShuntCompensator)
  | .vscConverterStation => inferInstanceAs (StoredAttributes VscConverterStation)
  | .lccConverterStation => inferInstanceAs (StoredAttributes LccConverterStation)
  | .staticVarCompensator => inferInstanceAs (StoredAttributes StaticVarCompensator)
  | .busbarSection => inferInstanceAs (StoredAttributes BusbarSection)
  | .switch => inferInstanceAs (StoredAttributes Switch)
  | .twoWindingsTransformer => inferInstanceAs (StoredAttributes TwoWindingsTransformer)
  | .threeWindingsTransformer => inferInstanceAs (StoredAttributes ThreeWindingsTransformer)
  | .line => inferInstanceAs (StoredAttributes Line)
  | .hvdcLine => inferInstanceAs (StoredAttributes HvdcLine)
  | .danglingLine => inferInstanceAs (StoredAttributes DanglingLine)
  | .configuredBus => inferInstanceAs (StoredAttributes ConfiguredBus)

end GridStore
