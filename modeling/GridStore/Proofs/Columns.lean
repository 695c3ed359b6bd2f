import GridStore.Proofs.NestedValues
import GridStore.Store.Cell
import GridStore.Store.Row

/-!
# Columns read back

A value that fits its column is fetched from what the column holds of it, but for the sign of a
zero, which a column of reals does not keep (`fetch_store`). What a codec writes fits its column,
and is never null unless a field is optional and holds nothing (`LawfulColumn`).
-/

namespace GridStore

/-- The double without the sign of a zero. -/
def Binary64.settled (x : Binary64) : Binary64 :=
  if x = zero true then zero false else x

/-- The value as a column of its shape gives it back. -/
def ColumnValue.settled : ColumnValue → ColumnValue
  | real x => real x.settled
  | v => v

/-! ## Cells -/

/-- What a codec writes to a column of a type. -/
def ColumnValue.Fits : ColumnType → ColumnValue → Prop
  | _, null => True
  | .boolean, boolean _ => True
  | .integer, integer _ => True
  | .real, real x => x.isFinite
  | .real, text s => ∃ x : Binary64, x.nonFiniteText? = some s
  | .text, text _ => True
  | .list, json v | .json, json v => v.Storable ∧ v.depth ≤ Json.maxDepth
  | _, _ => False

namespace Cell

theorem eq_zero_of_sameNumber {x : Binary64} (h : (x == Binary64.zero false) = true) :
    ∃ negative, x = Binary64.zero negative := by
  rcases x with _ | _ | ⟨negative, significand, scale, hlt, hle, hn⟩
  · simp [BEq.beq, Binary64.sameNumber] at h
  · simp [BEq.beq, Binary64.sameNumber, Binary64.zero] at h
  · have hunits : significand <<< scale = 0 := by
      cases negative <;>
        simpa [BEq.beq, Binary64.sameNumber, Binary64.zero, Binary64.units] using h
    rw [Nat.shiftLeft_eq, Nat.mul_eq_zero] at hunits
    have hpos : 2 ^ scale ≠ 0 := (Nat.two_pow_pos scale).ne'
    obtain rfl : significand = 0 := hunits.resolve_right hpos
    obtain rfl : scale = 0 := by omega
    exact ⟨negative, rfl⟩

theorem toReal_real (x : Binary64) : (Cell.real x).toReal = .real x.settled := by
  simp only [toReal, Binary64.settled]
  by_cases h : (x == Binary64.zero false) = true
  · obtain ⟨negative, rfl⟩ := eq_zero_of_sameNumber h
    cases negative <;> rfl
  · have hne : x ≠ Binary64.zero true := by
      rintro rfl
      exact h rfl
    rw [if_neg h, if_neg hne]

theorem numberOfText_nonFinite : ∀ {x : Binary64} {word : String}, x.nonFiniteText? = some word →
    numberOfText word = .text word
  | .nan, _, rfl => rfl
  | .infinite false, _, rfl => rfl
  | .infinite true, _, rfl => rfl

/-- A value that fits a column is fetched from it, a zero without its sign. -/
theorem fetch_store {table : String} {c : ColumnInfo} {v : ColumnValue} (h : v.Fits c.columnType) :
    (Cell.store c.columnType v).fetch table c = .ok v.settled := by
  obtain ⟨name, type⟩ := c
  rcases v with _ | b | n | x | s | v
  · cases type <;> rfl
  · cases type <;> simp only [ColumnValue.Fits] at h
    cases b <;> rfl
  · cases type <;> simp only [ColumnValue.Fits] at h
    rfl
  · cases type <;> simp only [ColumnValue.Fits] at h
    have hnan : x ≠ .nan := by
      rintro rfl
      simp [Binary64.isFinite] at h
    simp only [store, ofColumnValue, if_neg hnan, ColumnType.affinity, convert, toReal_real, fetch,
      ColumnValue.settled]
  · cases type <;> simp only [ColumnValue.Fits] at h
    · obtain ⟨x, hx⟩ := h
      simp only [store, ofColumnValue, ColumnType.affinity, convert, numberOfText_nonFinite hx, toReal,
        fetch, ColumnValue.settled]
    · rfl
  · cases type <;> simp only [ColumnValue.Fits] at h
    all_goals
      simp only [store, ofColumnValue, ColumnType.affinity, convert, fetch,
        Json.ofText?_render h.1 h.2, ColumnValue.settled]

end Cell

/-! ## Codecs -/

/-- A type whose values are read back from a column. -/
class LawfulColumn (α : Type) [ColumnCodec α] : Prop where
  fits : ∀ a : α, (ColumnCodec.toColumn a).Fits (ColumnCodec.columnType α)
  ne_null : ∀ a : α, ColumnCodec.toColumn a ≠ .null ∧ ColumnCodec.toColumn a ≠ .json .null
  ofColumn_toColumn : ∀ a : α, ColumnCodec.ofColumn (ColumnCodec.toColumn a) = .ok a

/-- A type whose values are not written as reals, so that a table gives them back as they are. -/
class SettledColumn (α : Type) [ColumnCodec α] : Prop where
  settled_toColumn : ∀ a : α, (ColumnCodec.toColumn a).settled = ColumnCodec.toColumn a

export SettledColumn (settled_toColumn)

attribute [simp] settled_toColumn

namespace LawfulColumn

open ColumnCodec

instance : LawfulColumn Bool where
  fits _ := trivial
  ne_null _ := ⟨by simp [toColumn], by simp [toColumn]⟩
  ofColumn_toColumn _ := rfl

instance : LawfulColumn String where
  fits _ := trivial
  ne_null _ := ⟨by simp [toColumn], by simp [toColumn]⟩
  ofColumn_toColumn _ := rfl

instance : LawfulColumn Int32 where
  fits _ := trivial
  ne_null _ := ⟨by simp [toColumn], by simp [toColumn]⟩
  ofColumn_toColumn n := by
    have hlo : Int32.minValue.toInt ≤ n.toInt := n.minValue_le_toInt
    have hhi : n.toInt ≤ Int32.maxValue.toInt := n.toInt_le
    have hint : (Int64.ofInt n.toInt).toInt = n.toInt := by
      have hmin : Int32.minValue.toInt = -0x80000000 := rfl
      have hmax : Int32.maxValue.toInt = 0x7fffffff := rfl
      exact Int64.toInt_ofInt_of_le (by omega) (by omega)
    show (if Int32.minValue.toInt ≤ (Int64.ofInt n.toInt).toInt ∧
        (Int64.ofInt n.toInt).toInt ≤ Int32.maxValue.toInt then
      (Except.ok (Int32.ofInt (Int64.ofInt n.toInt).toInt) : Except ColumnError Int32)
      else _) = .ok n
    rw [hint, if_pos ⟨hlo, hhi⟩, Int32.ofInt_toInt]

/-- A double is written as itself or as a word. -/
theorem toColumn_double (x : Binary64) :
    (x.isFinite ∧ toColumn x = .real x) ∨
      ∃ word, x.nonFiniteText? = some word ∧ toColumn x = .text word := by
  cases hword : x.nonFiniteText? with
  | none =>
    refine .inl ⟨Binary64.isFinite_of_nonFiniteText? hword, ?_⟩
    simp [toColumn, hword]
  | some word =>
    refine .inr ⟨word, rfl, ?_⟩
    simp [toColumn, hword]

theorem settled_of_nonFiniteText? {x : Binary64} {word : String} (h : x.nonFiniteText? = some word) :
    x.settled = x := by
  unfold Binary64.settled
  rw [if_neg]
  rintro rfl
  simp [Binary64.zero, Binary64.nonFiniteText?] at h

theorem nonFiniteText?_settled {x : Binary64} (h : x.isFinite) : x.settled.nonFiniteText? = none := by
  unfold Binary64.settled
  split
  · rfl
  · rcases x with _ | _ | _
    · simp [Binary64.isFinite] at h
    · simp [Binary64.isFinite] at h
    · rfl

instance : LawfulColumn Binary64 where
  fits x := by
    rcases toColumn_double x with ⟨hx, hcolumn⟩ | ⟨word, hword, hcolumn⟩
    · rw [hcolumn]
      exact hx
    · rw [hcolumn]
      exact ⟨x, hword⟩
  ne_null x := by
    rcases toColumn_double x with ⟨-, hcolumn⟩ | ⟨word, -, hcolumn⟩
    all_goals
      rw [hcolumn]
      simp
  ofColumn_toColumn x := by
    rcases toColumn_double x with ⟨-, hcolumn⟩ | ⟨word, hword, hcolumn⟩
    · rw [hcolumn]
      rfl
    · rw [hcolumn]
      simp [ofColumn, Binary64.ofNonFiniteText?_of_nonFiniteText? hword]

/-- A column of reals settles the double. -/
@[simp]
theorem settled_toColumn_double (x : Binary64) : (toColumn x).settled = toColumn x.settled := by
  rcases toColumn_double x with ⟨hx, hcolumn⟩ | ⟨word, hword, hcolumn⟩
  · have hsettled : toColumn x.settled = .real x.settled := by
      simp [toColumn, nonFiniteText?_settled hx]
    rw [hcolumn, hsettled]
    rfl
  · rw [hcolumn, settled_of_nonFiniteText? hword, hcolumn]
    rfl

instance {α : Type} [Choice α] [LawfulChoice α] : LawfulColumn α where
  fits _ := trivial
  ne_null _ := ⟨by simp [toColumn], by simp [toColumn]⟩
  ofColumn_toColumn a := by
    show (match Choice.ofLabel? (Choice.label a) with
      | some a => .ok a
      | none => .error _) = Except.ok a
    rw [LawfulChoice.ofLabel?_label]

/-- Columns that hold JSON give back what the JSON restores. -/
theorem ofJson {α : Type} {type : ColumnType} {c : JsonCodec α} (htype : type.isJsonEncoded)
    (h : ∀ a, c.Restores 127 a) : @LawfulColumn α (ColumnCodec.ofJson type c) := by
  let _ : ColumnCodec α := ColumnCodec.ofJson type c
  refine ⟨fun a => ?_, fun a => ⟨by simp [toColumn], by simpa [toColumn] using (h a).ne_null⟩, fun a => ?_⟩
  · have hfits : (c.encode a).Storable ∧ (c.encode a).depth ≤ Json.maxDepth :=
      ⟨(h a).storable, (h a).depth_le⟩
    cases type <;> first | exact hfits | simp [ColumnType.isJsonEncoded] at htype
  · show (match c.ofJson? (c.encode a) with
      | some a => .ok a
      | none => .error ColumnError.json) = Except.ok a
    rw [(h a).ofJson?]

section Optional

theorem ofColumn_optional_of_ne {α : Type} [ColumnCodec α] {v : ColumnValue} (hnull : v ≠ .null)
    (hjson : v ≠ .json .null) :
    (ofColumn v : Except ColumnError (Option α)) = (ofColumn v).map some := by
  rcases v with _ | _ | _ | _ | _ | j
  · exact absurd rfl hnull
  · rfl
  · rfl
  · rfl
  · rfl
  · rcases j with _ | _ | _ | _ | _ | _
    · exact absurd rfl hjson
    all_goals rfl

variable {α : Type} [ColumnCodec α] [LawfulColumn α]

theorem fits_optional : ∀ o : Option α, (toColumn o).Fits (columnType (Option α))
  | none => trivial
  | some a => fits a

theorem ofColumn_optional : ∀ o : Option α, ofColumn (toColumn o) = .ok o
  | none => rfl
  | some a => by
    obtain ⟨hnull, hjson⟩ := ne_null a
    show ofColumn (toColumn a) = _
    rw [ofColumn_optional_of_ne hnull hjson, ofColumn_toColumn a]
    rfl

end Optional

end LawfulColumn

/-! ## Collections and nested values -/

section Nested

open LawfulColumn

instance : LawfulColumn (List String) := .ofJson rfl fun _ => restored _
instance : LawfulColumn (List Int32) := .ofJson rfl fun _ => restored _
instance : LawfulColumn Properties := .ofJson rfl fun _ => restored _
instance : LawfulColumn ConnectablePosition := .ofJson rfl fun _ => restored _
instance : LawfulColumn TerminalRef := .ofJson rfl fun _ => restored _
instance : LawfulColumn (List InternalConnection) := .ofJson rfl fun _ => restored _
instance : LawfulColumn ReactiveLimits := .ofJson rfl fun _ => restored _
instance : LawfulColumn ActivePowerControl := .ofJson rfl fun _ => restored _
instance : LawfulColumn CoordinatedReactiveControl := .ofJson rfl fun _ => restored _
instance : LawfulColumn VoltagePerReactivePowerControl := .ofJson rfl fun _ => restored _
instance : LawfulColumn CurrentLimits := .ofJson rfl fun _ => restored _
instance : LawfulColumn RatioTapChanger := .ofJson rfl fun _ => restored _
instance : LawfulColumn PhaseTapChanger := .ofJson rfl fun _ => restored _
instance : LawfulColumn Leg := .ofJson rfl fun _ => restored _
instance : LawfulColumn ShuntCompensatorModel := .ofJson rfl fun _ => restored _
instance : LawfulColumn DanglingLineGeneration := .ofJson rfl fun _ => restored _
instance : LawfulColumn HvdcAngleDroopActivePowerControl := .ofJson rfl fun _ => restored _
instance : LawfulColumn HvdcOperatorActivePowerRange := .ofJson rfl fun _ => restored _
instance : LawfulColumn CgmesSvMetadata := .ofJson rfl fun _ => restored _
instance : LawfulColumn CgmesSshMetadata := .ofJson rfl fun _ => restored _
instance : LawfulColumn CimCharacteristics := .ofJson rfl fun _ => restored _

end Nested

/-! ## Values that are not reals -/

section Settled

instance : SettledColumn Bool := ⟨fun _ => rfl⟩
instance : SettledColumn String := ⟨fun _ => rfl⟩
instance : SettledColumn Int32 := ⟨fun _ => rfl⟩
instance : SettledColumn (List String) := ⟨fun _ => rfl⟩
instance : SettledColumn (List Int32) := ⟨fun _ => rfl⟩
instance : SettledColumn Properties := ⟨fun _ => rfl⟩
instance : SettledColumn ConnectablePosition := ⟨fun _ => rfl⟩
instance : SettledColumn TerminalRef := ⟨fun _ => rfl⟩
instance : SettledColumn (List InternalConnection) := ⟨fun _ => rfl⟩
instance : SettledColumn ReactiveLimits := ⟨fun _ => rfl⟩
instance : SettledColumn ActivePowerControl := ⟨fun _ => rfl⟩
instance : SettledColumn CoordinatedReactiveControl := ⟨fun _ => rfl⟩
instance : SettledColumn VoltagePerReactivePowerControl := ⟨fun _ => rfl⟩
instance : SettledColumn CurrentLimits := ⟨fun _ => rfl⟩
instance : SettledColumn RatioTapChanger := ⟨fun _ => rfl⟩
instance : SettledColumn PhaseTapChanger := ⟨fun _ => rfl⟩
instance : SettledColumn Leg := ⟨fun _ => rfl⟩
instance : SettledColumn ShuntCompensatorModel := ⟨fun _ => rfl⟩
instance : SettledColumn DanglingLineGeneration := ⟨fun _ => rfl⟩
instance : SettledColumn HvdcAngleDroopActivePowerControl := ⟨fun _ => rfl⟩
instance : SettledColumn HvdcOperatorActivePowerRange := ⟨fun _ => rfl⟩
instance : SettledColumn CgmesSvMetadata := ⟨fun _ => rfl⟩
instance : SettledColumn CgmesSshMetadata := ⟨fun _ => rfl⟩
instance : SettledColumn CimCharacteristics := ⟨fun _ => rfl⟩
instance {α : Type} [Choice α] : SettledColumn α := ⟨fun _ => rfl⟩

instance {α : Type} [ColumnCodec α] [SettledColumn α] : SettledColumn (Option α) :=
  ⟨fun o => by
    rcases o with _ | a
    · rfl
    · exact settled_toColumn a⟩

@[simp]
theorem settled_toColumn_optional_double (o : Option Binary64) :
    (ColumnCodec.toColumn o).settled = ColumnCodec.toColumn (o.map Binary64.settled) := by
  rcases o with _ | x
  · rfl
  · exact LawfulColumn.settled_toColumn_double x

end Settled

end GridStore
