import GridStore.Attributes.Values
import GridStore.Proofs.Codecs
import GridStore.Proofs.TimestampText
import GridStore.Proofs.UuidText

/-!
# Nested values restored

Every part of attributes that is held as JSON is restored from it (`restored`), none of them nested
deeper than five levels, and every choice from its label.
-/

namespace GridStore

open JsonCodec

/-! ## Choices -/

instance : LawfulChoice Kind := by
  refine ⟨?_⟩
  rintro (_ | k)
  · rfl
  · cases k <;> rfl
instance : LawfulChoice TopologyKind := ⟨by rintro (_ | _) <;> rfl⟩
instance : LawfulChoice SwitchKind := ⟨by rintro (_ | _ | _) <;> rfl⟩
instance : LawfulChoice LoadType := ⟨by rintro (_ | _ | _) <;> rfl⟩
instance : LawfulChoice EnergySource := ⟨by rintro (_ | _ | _ | _ | _ | _) <;> rfl⟩
instance : LawfulChoice StaticVarCompensatorRegulationMode := ⟨by rintro (_ | _ | _) <;> rfl⟩
instance : LawfulChoice HvdcConvertersMode := ⟨by rintro (_ | _) <;> rfl⟩
instance : LawfulChoice ConnectableDirection := ⟨by rintro (_ | _ | _) <;> rfl⟩
instance : LawfulChoice PhaseTapChangerRegulationMode := ⟨by rintro (_ | _ | _) <;> rfl⟩
instance : LawfulChoice CgmesTopologyKind := ⟨by rintro (_ | _) <;> rfl⟩

/-! ## Types whose values are restored -/

/-- A type each of whose values is restored, nested no deeper than a bound. -/
class Restored (α : Type) [JsonValue α] (d : Nat) : Prop where
  restores : ∀ a : α, JsonValue.codec.Restores d a

section Scalars

variable {α : Type} {d : Nat}

@[simp]
theorem restored [JsonValue α] [Restored α d] (a : α) : (JsonValue.codec : JsonCodec α).Restores d a :=
  Restored.restores a

theorem restores_timestamp (t : Timestamp) : timestamp.Restores d t := by
  refine ⟨trivial, Nat.zero_le d, by simp [timestamp], fun _ _ => ?_⟩
  simp only [timestamp, Json.toTree, Option.bind_some, t.readLoose?_writeZ]

theorem restores_uuid (u : Uuid) : uuid.Restores d u := by
  refine ⟨trivial, Nat.zero_le d, by simp [uuid], fun _ _ => ?_⟩
  simp only [uuid, Json.toTree, Option.bind_some, u.read?_text]

instance : Restored String d := ⟨restores_string⟩
instance : Restored Timestamp d := ⟨restores_timestamp⟩
instance : Restored Uuid d := ⟨restores_uuid⟩
instance : Restored Bool d := ⟨restores_bool⟩
instance : Restored Int32 d := ⟨restores_int32⟩
instance : Restored Properties (d + 1) := ⟨restores_properties⟩
instance [Choice α] [LawfulChoice α] : Restored α d := ⟨restores_choice⟩
instance [JsonValue α] [Restored α d] : Restored (List α) (d + 1) :=
  ⟨fun _ => restores_list fun a _ => restored a⟩

end Scalars

/-! ## Nested values -/

section Nested

variable {d : Nat}

instance : Restored ConnectablePosition (d + 1) :=
  ⟨fun a => restores_record (by simp [ConnectablePosition.members])
    (by simp [ConnectablePosition.members]) (by cases a; rfl)⟩

instance : Restored TerminalRef (d + 1) :=
  ⟨fun a => restores_record (by simp [TerminalRef.members]) (by simp [TerminalRef.members])
    (by cases a; rfl)⟩

instance : Restored InternalConnection (d + 1) :=
  ⟨fun a => restores_record (by simp [InternalConnection.members])
    (by simp [InternalConnection.members]) (by cases a; rfl)⟩

instance : Restored ReactiveCapabilityCurvePoint (d + 1) :=
  ⟨fun a => restores_record (by simp [ReactiveCapabilityCurvePoint.members])
    (by simp [ReactiveCapabilityCurvePoint.members]) (by cases a; rfl)⟩

instance : Restored ReactiveLimits (d + 3) := by
  refine ⟨fun a => ?_⟩
  cases a with
  | minMax limits =>
    have hmembers : ∀ m ∈ MinMaxReactiveLimits.members, m.Restores (d + 2) limits := by
      simp [MinMaxReactiveLimits.members]
    refine @restores_union _ _ _ _ _ ReactiveLimits.minMaxCase limits rfl rfl rfl rfl ?_ hmembers rfl
    simp [ReactiveLimits.minMaxCase, MinMaxReactiveLimits.members]
  | curve limits =>
    have hmembers : ∀ m ∈ ReactiveCapabilityCurve.members, m.Restores (d + 2) limits := by
      simp [ReactiveCapabilityCurve.members]
    refine @restores_union _ _ _ _ _ ReactiveLimits.curveCase limits rfl rfl rfl rfl ?_ hmembers rfl
    simp [ReactiveLimits.curveCase, ReactiveCapabilityCurve.members]

instance : Restored ActivePowerControl (d + 1) :=
  ⟨fun a => restores_record (by simp [ActivePowerControl.members])
    (by simp [ActivePowerControl.members]) (by cases a; rfl)⟩

instance : Restored CoordinatedReactiveControl (d + 1) :=
  ⟨fun a => restores_record (by simp [CoordinatedReactiveControl.members])
    (by simp [CoordinatedReactiveControl.members]) (by cases a; rfl)⟩

instance : Restored VoltagePerReactivePowerControl (d + 1) :=
  ⟨fun a => restores_record (by simp [VoltagePerReactivePowerControl.members])
    (by simp [VoltagePerReactivePowerControl.members]) (by cases a; rfl)⟩

instance : Restored TemporaryLimit (d + 1) :=
  ⟨fun a => restores_record (by simp [TemporaryLimit.members]) (by simp [TemporaryLimit.members])
    (by cases a; rfl)⟩

instance : Restored CurrentLimits (d + 3) :=
  ⟨fun a => restores_record (by simp [CurrentLimits.members]) (by simp [CurrentLimits.members])
    (by cases a; rfl)⟩

instance : Restored TapChangerStep (d + 1) :=
  ⟨fun a => restores_record (by simp [TapChangerStep.members]) (by simp [TapChangerStep.members])
    (by cases a; rfl)⟩

instance : Restored RatioTapChanger (d + 3) :=
  ⟨fun a => restores_record (by simp [RatioTapChanger.members]) (by simp [RatioTapChanger.members])
    (by cases a; rfl)⟩

instance : Restored PhaseTapChanger (d + 3) :=
  ⟨fun a => restores_record (by simp [PhaseTapChanger.members]) (by simp [PhaseTapChanger.members])
    (by cases a; rfl)⟩

instance : Restored Leg (d + 4) :=
  ⟨fun a => restores_record (by simp [Leg.members]) (by simp [Leg.members])
    (by cases a; rfl)⟩

instance : Restored ShuntCompensatorSection (d + 1) :=
  ⟨fun a => restores_record (by simp [ShuntCompensatorSection.members])
    (by simp [ShuntCompensatorSection.members]) (by cases a; rfl)⟩

instance : Restored ShuntCompensatorModel (d + 3) := by
  refine ⟨fun a => ?_⟩
  cases a with
  | linear model =>
    have hmembers : ∀ m ∈ LinearShuntModel.members, m.Restores (d + 2) model := by
      simp [LinearShuntModel.members]
    refine @restores_union _ _ _ _ _ ShuntCompensatorModel.linearCase model rfl rfl rfl rfl ?_ hmembers rfl
    simp [ShuntCompensatorModel.linearCase, LinearShuntModel.members]
  | nonLinear model =>
    have hmembers : ∀ m ∈ NonLinearShuntModel.members, m.Restores (d + 2) model := by
      simp [NonLinearShuntModel.members]
    refine @restores_union _ _ _ _ _ ShuntCompensatorModel.nonLinearCase model rfl rfl rfl rfl ?_ hmembers rfl
    simp [ShuntCompensatorModel.nonLinearCase, NonLinearShuntModel.members]

instance : Restored DanglingLineGeneration (d + 4) :=
  ⟨fun a => restores_record (by simp [DanglingLineGeneration.members])
    (by simp [DanglingLineGeneration.members]) (by cases a; rfl)⟩

instance : Restored HvdcAngleDroopActivePowerControl (d + 1) :=
  ⟨fun a => restores_record (by simp [HvdcAngleDroopActivePowerControl.members])
    (by simp [HvdcAngleDroopActivePowerControl.members]) (by cases a; rfl)⟩

instance : Restored HvdcOperatorActivePowerRange (d + 1) :=
  ⟨fun a => restores_record (by simp [HvdcOperatorActivePowerRange.members])
    (by simp [HvdcOperatorActivePowerRange.members]) (by cases a; rfl)⟩

instance : Restored CgmesSvMetadata (d + 2) :=
  ⟨fun a => restores_record (by simp [CgmesSvMetadata.members]) (by simp [CgmesSvMetadata.members])
    (by cases a; rfl)⟩

instance : Restored CgmesSshMetadata (d + 2) :=
  ⟨fun a => restores_record (by simp [CgmesSshMetadata.members])
    (by simp [CgmesSshMetadata.members]) (by cases a; rfl)⟩

instance : Restored CimCharacteristics (d + 1) :=
  ⟨fun a => restores_record (by simp [CimCharacteristics.members])
    (by simp [CimCharacteristics.members]) (by cases a; rfl)⟩

end Nested

end GridStore
