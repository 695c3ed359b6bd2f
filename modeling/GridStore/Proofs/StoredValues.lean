import GridStore.Proofs.NetworkRows

/-!
# What attributes put into columns

Each field of attributes puts into its column a value of the shape that the column's type demands,
and null only where the field may hold nothing and does (`Field.Shaped`, for every field of every
kind). No number of such a value is beyond the finite ones, however deep in JSON it stands, so that
the column gives the value back; a column of reals loses the sign of a zero
(`Attributes.values_stored`).
-/

namespace GridStore

/-! ## Numbers in JSON -/

namespace Json

mutual

/-- The numbers in a value, at any depth. -/
def numbers : Json → List Number
  | .num n => [n]
  | .arr items => numbersItems items
  | .obj members => numbersMembers members
  | _ => []

/-- The numbers in the items of an array. -/
def numbersItems : List Json → List Number
  | [] => []
  | item :: items => numbers item ++ numbersItems items

/-- The numbers in the members of an object. -/
def numbersMembers : List (String × Json) → List Number
  | [] => []
  | (_, value) :: members => numbers value ++ numbersMembers members

end

variable {x : Binary64}

mutual

theorem Storable.isFinite : ∀ {v : Json}, v.Storable → .float x ∈ v.numbers → x.isFinite
  | .num (.int _), _, hx => by simp [numbers] at hx
  | .num (.float y), h, hx => by
    obtain rfl : x = y := by simpa [numbers] using hx
    exact h
  | .arr _, h, hx => StorableItems.isFinite h hx
  | .obj _, h, hx => StorableMembers.isFinite h.2 hx

theorem StorableItems.isFinite : ∀ {items : List Json}, StorableItems items →
    .float x ∈ numbersItems items → x.isFinite
  | _ :: _, h, hx => by
    rcases List.mem_append.1 hx with hx | hx
    · exact Storable.isFinite h.1 hx
    · exact StorableItems.isFinite h.2 hx

theorem StorableMembers.isFinite : ∀ {members : List (String × Json)}, StorableMembers members →
    .float x ∈ numbersMembers members → x.isFinite
  | (_, _) :: _, h, hx => by
    rcases List.mem_append.1 hx with hx | hx
    · exact Storable.isFinite h.1 hx
    · exact StorableMembers.isFinite h.2 hx

end

end Json

/-! ## Values -/

theorem Binary64.nonFiniteText?_cases : ∀ {x : Binary64} {word : String},
    x.nonFiniteText? = some word → word = "NaN" ∨ word = "Infinity" ∨ word = "-Infinity"
  | .nan, _, rfl => .inl rfl
  | .infinite false, _, rfl => .inr (.inl rfl)
  | .infinite true, _, rfl => .inr (.inr rfl)

namespace ColumnValue

/-- The shape that a column of a type demands of a value that is there. -/
def HasShape : ColumnType → ColumnValue → Prop
  | .boolean, boolean _ => True
  | .integer, integer _ => True
  | .real, real x => x.isFinite
  | .real, text word => word = "NaN" ∨ word = "Infinity" ∨ word = "-Infinity"
  | .text, text _ => True
  | .list, json v => ∃ items, v = .arr items
  | .json, json v => v ≠ .null
  | _, _ => False

theorem Fits.hasShape : ∀ {type : ColumnType} {v : ColumnValue}, v.Fits type → v ≠ .null →
    v ≠ .json .null → (type = .list → ∃ items, v = .json (.arr items)) → v.HasShape type
  | _, null, _, hnull, _, _ => absurd rfl hnull
  | .boolean, boolean _, _, _, _, _ => trivial
  | .integer, integer _, _, _, _, _ => trivial
  | .real, real _, h, _, _, _ => h
  | .real, text _, ⟨_, hword⟩, _, _, _ => Binary64.nonFiniteText?_cases hword
  | .text, text _, _, _, _, _ => trivial
  | .list, json v, _, _, _, harray => by
    obtain ⟨items, hv⟩ := harray rfl
    exact ⟨items, ColumnValue.json.inj hv⟩
  | .json, json _, _, _, hjson, _ => fun hv => hjson (congrArg json hv)

theorem Fits.isFinite : ∀ {type : ColumnType} {x : Binary64}, (real x).Fits type → x.isFinite
  | .real, _, h => h

theorem Fits.storable : ∀ {type : ColumnType} {v : Json}, (json v).Fits type → v.Storable
  | .list, _, h => h.1
  | .json, _, h => h.1

/-- The only value that a column changes is a negative zero, in a column of reals. -/
theorem Fits.settled {type : ColumnType} {v : ColumnValue} (h : v.Fits type) :
    v.settled = v ∨
      type = .real ∧ v = .real (.zero true) ∧ v.settled = .real (.zero false) := by
  rcases v with _ | _ | _ | x | _ | _
  case real =>
    by_cases hx : x = .zero true
    · subst hx
      cases type <;> first | exact .inr ⟨rfl, rfl, rfl⟩ | exact h.elim
    · exact .inl (congrArg real (if_neg hx))
  all_goals exact .inl rfl

end ColumnValue

/-! ## Fields -/

namespace Field

variable {A B : Type}

/-- The field may hold nothing, and holds nothing in the attributes. -/
def IsNone (f : Field A) (a : A) : Prop :=
  ∃ (α : Type) (c : JsonCodec α) (get : A → Option α), f.toMember.MayHold c get ∧ get a = none

theorem IsNone.within {f : Field A} {get : B → A} {b : B} (h : f.IsNone (get b)) (set : A → B → B) :
    (f.within get set).IsNone b := by
  obtain ⟨α, c, _, hmay, hnone⟩ := h
  exact ⟨α, c, _, hmay.within get set, hnone⟩

/-- What the field's column is given has the shape of the column, and is null only where the field
holds nothing. -/
structure Shaped (f : Field A) : Prop where
  isNone : ∀ a, f.read a = .null → f.IsNone a
  hasShape : ∀ a, f.read a ≠ .null → (f.read a).HasShape f.info.columnType

section Kinds

open ColumnCodec LawfulColumn

variable {α : Type} {name : String} [ColumnCodec α] [LawfulColumn α]
  (harray : columnType α = .list → ∀ v : α, ∃ items, toColumn v = .json (.arr items))

include harray

theorem hasShape_toColumn (v : α) : (toColumn v).HasShape (columnType α) :=
  (fits v).hasShape (ne_null v).1 (ne_null v).2 fun htype => harray htype v

variable [JsonValue α]

@[simp]
theorem shaped_required {get : A → α} {set : α → A → A} : (required name get set).Shaped :=
  ⟨fun a h => absurd h (ne_null (get a)).1, fun a _ => hasShape_toColumn harray (get a)⟩

@[simp]
theorem shaped_defaulted {default : α} {get : A → α} {set : α → A → A} :
    (defaulted name default get set).Shaped :=
  ⟨fun a h => absurd h (ne_null (get a)).1, fun a _ => hasShape_toColumn harray (get a)⟩

@[simp]
theorem shaped_optional {get : A → Option α} {set : Option α → A → A} :
    (optional name get set).Shaped := by
  refine ⟨fun a (h : toColumn (get a) = .null) => ?_, fun a (h : toColumn (get a) ≠ .null) => ?_⟩
  · cases hget : get a with
    | none => exact ⟨α, JsonValue.codec, get, .optional name get set, hget⟩
    | some v =>
      rw [hget] at h
      exact absurd h (ne_null v).1
  · show (toColumn (get a)).HasShape (columnType α)
    cases hget : get a with
    | none =>
      rw [hget] at h
      exact absurd rfl h
    | some v => exact hasShape_toColumn harray v

end Kinds

theorem Shaped.within {f : Field A} (h : f.Shaped) {get : B → A} {set : A → B → B} :
    (f.within get set).Shaped :=
  ⟨fun b hb => (h.isNone (get b) hb).within set, fun b => h.hasShape (get b)⟩

end Field

/-! ## Fields of every kind -/

section Kinds

open ColumnCodec

theorem Network.shaped_own : ∀ f ∈ Network.own, f.Shaped := by
  -- The date is apart from the other fields: not every date is read back from its column.
  rw [own_eq, List.forall_mem_append, List.forall_mem_cons]
  refine ⟨by simp [own, columnType], ⟨fun a h => ?_, fun _ _ => trivial⟩, by simp [own, columnType]⟩
  exact ColumnValue.noConfusion h

theorem EquipmentKind.shaped_own (k : EquipmentKind) : k.ForallOwn fun _ f => f.Shaped := by
  cases k with
  | substation =>
    simp [ForallOwn, Substation.own, columnType, toColumn, JsonValue.codec, JsonCodec.list]
  | _ =>
    simp [ForallOwn, VoltageLevel.container, VoltageLevel.own, Generator.own, Battery.own, Load.own,
      ShuntCompensator.own, VscConverterStation.own, LccConverterStation.own,
      StaticVarCompensator.own, BusbarSection.container, BusbarSection.own, Switch.container,
      Switch.own, TwoWindingsTransformer.windings, TwoWindingsTransformer.tapChangers,
      ThreeWindingsTransformer.containers, ThreeWindingsTransformer.own, Line.impedance,
      HvdcLine.own, DanglingLine.own, ConfiguredBus.container, ConfiguredBus.own, columnType]

theorem EquipmentKind.shaped_fields : ∀ k : EquipmentKind,
    ∀ f ∈ (Attributes.mapping (A := k.Attributes)).fields, f.Shaped :=
  EquipmentKind.forall_fields (P := fun _ f => f.Shaped)
    (fun _ _ h => h.within)
    (by simp [Identification.fields, columnType])
    (by simp [Connection.container, Connection.terminal, columnType])
    (by simp [BranchEnds.containers, BranchEnds.terminals, BranchEnds.flows, BranchEnds.positions,
      BranchEnds.limits, columnType])
    EquipmentKind.shaped_own

theorem Kind.shaped_fields : ∀ k : Kind,
    ∀ f ∈ (Attributes.mapping (A := k.Attributes)).fields, f.Shaped
  | .network => Network.shaped_own
  | .equipment k => k.shaped_fields

/-- What the columns of any kind are given fits them. -/
theorem Kind.fits_fields : ∀ (k : Kind) (a : k.Attributes),
    ∀ f ∈ (Attributes.mapping (A := k.Attributes)).fields, (f.read a).Fits f.info.columnType
  | .network, a => fun f hf => (Network.fits_own a f hf).1
  | .equipment k, a => by
    have hkeeps := StoredAttributes.keeps (A := k.Attributes)
    exact fun f hf => (hkeeps f hf).fits a

end Kinds

/-! ## Values of every kind -/

/-- A value that a field's column holds for the field: of the column's shape, null only where the
field holds nothing, without numbers beyond the finite ones, and given back as it is but for the
sign of a zero in a column of reals. -/
structure Field.Stores {A : Type} (f : Field A) (a : A) (v : ColumnValue) : Prop where
  isNone : v = .null → f.IsNone a
  hasShape : v ≠ .null → v.HasShape f.info.columnType
  isFinite : ∀ x, v = .real x → x.isFinite
  isFinite_json : ∀ j x, v = .json j → .float x ∈ j.numbers → x.isFinite
  fetch_store : ∀ table, ∃ w, (Cell.store f.info.columnType v).fetch table f.info = .ok w ∧
    (w = v ∨ f.info.columnType = .real ∧ v = .real (.zero true) ∧ w = .real (.zero false))

theorem Field.Shaped.stores {A : Type} {f : Field A} (hf : f.Shaped) {a : A}
    (hfits : (f.read a).Fits f.info.columnType) : f.Stores a (f.read a) where
  isNone := hf.isNone a
  hasShape := hf.hasShape a
  isFinite x hx := by
    rw [hx] at hfits
    exact hfits.isFinite
  isFinite_json j x hj hx := by
    rw [hj] at hfits
    exact hfits.storable.isFinite hx
  fetch_store table := ⟨_, Cell.fetch_store hfits, hfits.settled⟩

/-- Attributes of any kind give each of their columns, in order, a value that it holds. -/
theorem Attributes.values_stored (k : Kind) (a : k.Attributes) :
    List.Forall₂ (fun f v => f.Stores a v) (Attributes.mapping (A := k.Attributes)).fields
      ((Attributes.mapping (A := k.Attributes)).values a) := by
  unfold Mapping.values
  rw [List.forall₂_map_right_iff, List.forall₂_same]
  intro f hf
  exact (k.shaped_fields f hf).stores (k.fits_fields a f hf)

example : (Cell.store .real (.real (.zero true))).fetch "line" ⟨"r", .real⟩
    = .ok (.real (.zero false)) := rfl

end GridStore
