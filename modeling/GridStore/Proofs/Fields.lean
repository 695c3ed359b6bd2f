import GridStore.Proofs.Columns

/-!
# Attributes read back from rows

A field is kept by its column if what the table holds of it is read back, with zeros settled. Where
every field of a mapping is kept and the fields make up the attributes, a row that was written from
attributes is read as the same attributes, settled (`toAttributes_of_values`).
-/

namespace GridStore

/-! ## Fields -/

namespace Field

variable {A : Type}

/-- What the column holds of a field is read back from it, as the field of settled attributes. -/
structure Keeps (f : Field A) (settled : A → A) : Prop where
  fits : ∀ a, (f.read a).Fits f.info.columnType
  ofColumn_read : ∀ a, f.column.ofColumn (f.read a) = .ok (f.get a)
  settled_read : ∀ a, (f.read a).settled = f.read (settled a)

section Kinds

open ColumnCodec LawfulColumn

variable {α : Type} {name : String} [JsonValue α] [ColumnCodec α] [LawfulColumn α] {settled : A → A}

@[simp]
theorem keeps_required {get : A → α} {set : α → A → A}
    (h : ∀ a, (toColumn (get a)).settled = toColumn (get (settled a))) :
    (required name get set).Keeps settled :=
  ⟨fun a => fits (get a), fun a => ofColumn_toColumn (get a), h⟩

@[simp]
theorem keeps_defaulted {default : α} {get : A → α} {set : α → A → A}
    (h : ∀ a, (toColumn (get a)).settled = toColumn (get (settled a))) :
    (defaulted name default get set).Keeps settled :=
  ⟨fun a => fits (get a), fun a => ofColumn_toColumn (get a), h⟩

@[simp]
theorem keeps_optional {get : A → Option α} {set : Option α → A → A}
    (h : ∀ a, (toColumn (get a)).settled = toColumn (get (settled a))) :
    (optional name get set).Keeps settled :=
  ⟨fun a => fits_optional (get a), fun a => ofColumn_optional (get a), h⟩

end Kinds

theorem Keeps.within {B : Type} {f : Field A} {settledA : A → A} {settledB : B → B}
    (h : f.Keeps settledA) {get : B → A} {set : A → B → B} (hget : ∀ b, get (settledB b) = settledA (get b)) :
    (f.within get set).Keeps settledB := by
  refine ⟨fun b => h.fits (get b), fun b => h.ofColumn_read (get b), fun b => ?_⟩
  show (f.read (get b)).settled = f.read (get (settledB b))
  rw [h.settled_read, hget]

/-- What the column holds of a field. -/
def cell (f : Field A) (a : A) : Cell :=
  Cell.store f.info.columnType (f.read a)

section Names

variable {B α : Type} {name : String} [JsonValue α] [ColumnCodec α]

@[simp]
theorem name_required {get : A → α} {set : α → A → A} : (required name get set).name = name :=
  rfl

@[simp]
theorem name_defaulted {default : α} {get : A → α} {set : α → A → A} :
    (defaulted name default get set).name = name :=
  rfl

@[simp]
theorem name_optional {get : A → Option α} {set : Option α → A → A} :
    (optional name get set).name = name :=
  rfl

@[simp]
theorem name_within (f : Field A) (get : B → A) (set : A → B → B) : (f.within get set).name = f.name :=
  rfl

@[simp]
theorem cell_within (f : Field A) (get : B → A) (set : A → B → B) (b : B) :
    (f.within get set).cell b = f.cell (get b) :=
  rfl

@[simp]
theorem cell_text {get : A → String} {set : String → A → A} {a : A} :
    (required name get set).cell a = .text (get a) :=
  rfl

end Names

end Field

/-! ## Rows -/

section Rows

variable {A : Type}

theorem Mapping.fill_read (table : String) (a : A) : ∀ {fields : List (Field A)},
    (∀ f ∈ fields, f.column.ofColumn (f.read a) = .ok (f.get a)) → ∀ b,
      Mapping.fill table fields (fields.map (·.read a)) b
        = (fields.foldl (fun b f => f.set (f.get a) b) b, none)
  | [], _, _ => rfl
  | f :: fields, h, b => by
    rw [List.forall_mem_cons] at h
    have hwrite : f.write (f.read a) b = .ok (f.set (f.get a) b) := by
      rw [Field.write, h.1]
      rfl
    rw [List.map_cons, Mapping.fill, hwrite, List.foldl_cons]
    exact Mapping.fill_read table a h.2 _

/-- The fields before one whose column cannot be read are all that is filled. -/
theorem Mapping.fill_read_stops (table : String) (a : A) {f : Field A} {after : List (Field A)}
    {e : ColumnError} (hf : f.column.ofColumn (f.read a) = .error e) : ∀ {before : List (Field A)},
    (∀ f ∈ before, f.column.ofColumn (f.read a) = .ok (f.get a)) → ∀ b,
      Mapping.fill table (before ++ f :: after) ((before ++ f :: after).map (·.read a)) b
        = (before.foldl (fun b f => f.set (f.get a) b) b, some (.column table f.name e))
  | [], _, b => by
    have hwrite : f.write (f.read a) b = .error e := by
      rw [Field.write, hf]
      rfl
    rw [List.nil_append, List.map_cons, Mapping.fill, hwrite, List.foldl_nil]
  | g :: before, h, b => by
    rw [List.forall_mem_cons] at h
    have hwrite : g.write (g.read a) b = .ok (g.set (g.get a) b) := by
      rw [Field.write, h.1]
      rfl
    rw [List.cons_append, List.map_cons, Mapping.fill, hwrite, List.foldl_cons]
    exact Mapping.fill_read_stops table a hf h.2 _

theorem Row.fetchAll_storeAll (table : String) {settled : A → A} (a : A) :
    ∀ {fields : List (Field A)}, (∀ f ∈ fields, (f.read a).Fits f.info.columnType ∧
        (f.read a).settled = f.read (settled a)) →
      Row.fetchAll table (fields.map (·.info))
          (Row.storeAll (fields.map (·.info)) (fields.map (·.read a)))
        = .ok (fields.map (·.read (settled a)))
  | [], _ => rfl
  | f :: fields, h => by
    rw [List.forall_mem_cons] at h
    have hhead := @Cell.fetch_store table f.info _ h.1.1
    have hrest := Row.fetchAll_storeAll table a h.2
    simp only [Row.storeAll, List.map_cons, List.zipWith_cons_cons, Row.fetchAll] at hrest ⊢
    rw [hhead, hrest, h.1.2]
    rfl

/-- The attributes of a row are what fills from the values that it was written from. -/
theorem Row.toAttributes_eq [Attributes A] {settled : A → A} {a : A} {r : Row}
    (h : r.values = Row.ofAttributes a)
    (hfields : ∀ f ∈ (Attributes.mapping (A := A)).fields, (f.read a).Fits f.info.columnType ∧
      (f.read a).settled = f.read (settled a)) :
    r.toAttributes A
      = match Mapping.fill (Attributes.schema A).table (Attributes.mapping (A := A)).fields
          ((Attributes.mapping (A := A)).values (settled a)) default with
        | (a, none) => .ok a
        | (_, some e) => .error (.mapping e) := by
  have hfetch : Row.fetchAll (Attributes.schema A).table (Attributes.schema A).columns (Row.ofAttributes a)
      = .ok ((Attributes.mapping (A := A)).values (settled a)) :=
    Row.fetchAll_storeAll _ a hfields
  have happly : (Attributes.mapping (A := A)).apply default
      ((Attributes.mapping (A := A)).values (settled a))
        = Mapping.fill (Attributes.schema A).table (Attributes.mapping (A := A)).fields
          ((Attributes.mapping (A := A)).values (settled a)) default :=
    if_pos (by simp [Mapping.size, Mapping.values])
  rw [Row.toAttributes, h, hfetch]
  dsimp only [bind, Except.bind]
  rw [Mapping.read, happly]
  rcases Mapping.fill _ _ _ _ with ⟨filled, _ | e⟩ <;> rfl

/-- A type of attributes that rows give back, with the zeros of its reals settled. -/
class StoredAttributes (A : Type) [Attributes A] where
  /-- The attributes as a table gives them back. -/
  settled : A → A
  /-- The container in which an update has to find a row, if it looks for one. -/
  containerId : A → Option String
  keeps : ∀ f ∈ (Attributes.mapping (A := A)).fields, f.Keeps settled
  covers : ∀ a b : A, (Attributes.mapping (A := A)).fields.foldl (fun b f => f.set (f.get a) b) b = a
  sameKey_iff : ∀ a b : A, (∀ f ∈ (Attributes.mapping (A := A)).fields,
    some f.name = (Attributes.mapping (A := A)).updateKey → f.cell a = f.cell b) ↔
      containerId a = containerId b

/-- A row written from attributes is read as them. -/
theorem Row.toAttributes_of_values [Attributes A] [StoredAttributes A] {a : A} {r : Row}
    (h : r.values = Row.ofAttributes a) : r.toAttributes A = .ok (StoredAttributes.settled a) := by
  have hkeeps := StoredAttributes.keeps (A := A)
  have hfill := Mapping.fill_read (Attributes.schema A).table (StoredAttributes.settled a)
    (fun f hf => (hkeeps f hf).ofColumn_read _) default
  rw [StoredAttributes.covers] at hfill
  rw [Row.toAttributes_eq h fun f hf => ⟨(hkeeps f hf).fits a, (hkeeps f hf).settled_read a⟩,
    Mapping.values, hfill]

/-! ## Updates -/

theorem Row.ofAttributes_eq [Attributes A] (a : A) :
    ofAttributes a = (Attributes.mapping (A := A)).fields.map (·.cell a) := by
  unfold ofAttributes storeAll
  show List.zipWith _ ((Attributes.mapping (A := A)).fields.map (·.info))
    ((Attributes.mapping (A := A)).fields.map (·.read a)) = _
  rw [List.zipWith_map, List.zipWith_self]
  rfl

theorem Row.columns_zip [Attributes A] {a b : A} {r : Row} (h : r.values = ofAttributes a) :
    (Attributes.schema A).columnNames.zip (r.values.zip (ofAttributes b))
      = (Attributes.mapping (A := A)).fields.map fun f => (f.name, f.cell a, f.cell b) := by
  have hnames : (Attributes.schema A).columnNames
      = (Attributes.mapping (A := A)).fields.map (·.name) := by
    show ((Attributes.mapping (A := A)).fields.map (·.info)).map (·.name) = _
    rw [List.map_map]
    rfl
  rw [h, ofAttributes_eq, ofAttributes_eq, hnames]
  induction (Attributes.mapping (A := A)).fields with
  | nil => rfl
  | cons f fields ih => simp only [List.map_cons, List.zip_cons_cons, ih]

variable [Attributes A] [StoredAttributes A] {a b : A} {r : Row}

/-- An update finds a row in the container that its attributes name. -/
theorem Row.matchesKey_iff (h : r.values = ofAttributes a) :
    r.matchesKey (Attributes.schema A) (ofAttributes b) = true ↔
      StoredAttributes.containerId a = StoredAttributes.containerId b := by
  rw [matchesKey, columns_zip h, ← StoredAttributes.sameKey_iff]
  simp only [List.all_map, List.all_eq_true, Function.comp_apply, Bool.or_eq_true, decide_eq_true_eq,
    ne_eq, ← imp_iff_not_or]
  rfl

/-- A row that an update finds holds its attributes afterwards. -/
theorem Row.values_assign (h : r.values = ofAttributes a)
    (hsame : StoredAttributes.containerId a = StoredAttributes.containerId b) :
    (r.assign (Attributes.schema A) (ofAttributes b)).values = ofAttributes b := by
  show ((Attributes.schema A).columnNames.zip (r.values.zip (ofAttributes b))).map _ = _
  rw [columns_zip h, List.map_map, ofAttributes_eq]
  refine List.map_congr_left fun f hf => ?_
  show (if some f.name = (Attributes.mapping (A := A)).updateKey then f.cell a else f.cell b) = _
  split
  · rename_i hkey
    exact (StoredAttributes.sameKey_iff a b).2 hsame f hf hkey
  · rfl

end Rows

end GridStore
