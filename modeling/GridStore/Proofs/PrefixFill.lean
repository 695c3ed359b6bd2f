import GridStore.Proofs.Fields
import GridStore.Proofs.FieldsApart

/-!
# Filling that stops

Filling attributes from the values of a row writes the fields of the columns before the first value
that does not fit, each with what its value denotes, and nothing else (`Mapping.fill_of_accepted`,
`Mapping.fill_of_rejected`). The fields of a kind are independent, so what was written stays and what
was not is as before, the members without a column too (`Attributes.apply_up_to_rejected`).
-/

namespace GridStore

namespace Field

variable {A : Type}

/-- The column's codec takes the value. -/
def Accepts (f : Field A) (v : ColumnValue) : Prop :=
  ∃ x, f.column.ofColumn v = .ok x

/-- The attributes with the field filled from a value, if the column's codec takes it. -/
def put (f : Field A) (v : ColumnValue) (a : A) : A :=
  match f.column.ofColumn v with
  | .ok x => f.set x a
  | .error _ => a

theorem put_of_ok {f : Field A} {v : ColumnValue} {x : f.Value} (h : f.column.ofColumn v = .ok x)
    (a : A) : f.put v a = f.set x a := by
  rw [put, h]

theorem write_of_ok {f : Field A} {v : ColumnValue} {x : f.Value} (h : f.column.ofColumn v = .ok x)
    (a : A) : f.write v a = .ok (f.set x a) := by
  rw [write, h]
  rfl

theorem write_of_error {f : Field A} {v : ColumnValue} {e : ColumnError}
    (h : f.column.ofColumn v = .error e) (a : A) : f.write v a = .error e := by
  rw [write, h]
  rfl

end Field

namespace Mapping

variable {A : Type} {columns before after : List (Field A × ColumnValue)}

/-- The attributes with the fields of columns filled from their values, one after the other. -/
def putAll (columns : List (Field A × ColumnValue)) (a : A) : A :=
  columns.foldl (fun a c => c.1.put c.2 a) a

/-! ## What is written -/

theorem fill_of_accepted (table : String) (h : ∀ c ∈ columns, c.1.Accepts c.2) (a : A) :
    fill table (columns.map Prod.fst) (columns.map Prod.snd) a = (putAll columns a, none) := by
  induction columns generalizing a with
  | nil => rfl
  | cons c columns ih =>
    rw [List.forall_mem_cons] at h
    obtain ⟨x, hx⟩ := h.1
    rw [List.map_cons, List.map_cons, fill, Field.write_of_ok hx, putAll, List.foldl_cons,
      Field.put_of_ok hx]
    exact ih h.2 _

theorem fill_of_rejected (table : String) {f : Field A} {v : ColumnValue} {e : ColumnError}
    (hv : f.column.ofColumn v = .error e) (h : ∀ c ∈ before, c.1.Accepts c.2) (a : A) :
    fill table ((before ++ (f, v) :: after).map Prod.fst) ((before ++ (f, v) :: after).map Prod.snd) a
      = (putAll before a, some (.column table f.name e)) := by
  induction before generalizing a with
  | nil =>
    rw [List.nil_append, List.map_cons, List.map_cons, fill, Field.write_of_error hv]
    rfl
  | cons c before ih =>
    rw [List.forall_mem_cons] at h
    obtain ⟨x, hx⟩ := h.1
    rw [List.cons_append, List.map_cons, List.map_cons, fill, Field.write_of_ok hx, putAll,
      List.foldl_cons, Field.put_of_ok hx]
    exact ih h.2 _

/-! ## What it does to the fields -/

/-- A member that is apart from the columns is as before. -/
theorem get_putAll {m : Member A} (h : ∀ c ∈ columns, m.Apart c.1.toMember) (a : A) :
    m.get (putAll columns a) = m.get a := by
  induction columns generalizing a with
  | nil => rfl
  | cons c columns ih =>
    rw [List.forall_mem_cons] at h
    have hput : m.get (c.1.put c.2 a) = m.get a := by
      unfold Field.put
      split
      · exact h.1.1 _ a
      · rfl
    exact (ih h.2 _).trans hput

/-- What was written stays. -/
theorem ofColumn_putAll (hcolumns : Member.Independent (Field.toMembers (columns.map Prod.fst)))
    (h : ∀ c ∈ columns, c.1.Accepts c.2) (a : A) :
    ∀ c ∈ columns, c.1.column.ofColumn c.2 = .ok (c.1.get (putAll columns a)) := by
  induction columns generalizing a with
  | nil => exact List.forall_mem_nil _
  | cons c columns ih =>
    rw [Field.toMembers, List.map_cons, List.map_cons, Member.independent_cons] at hcolumns
    rw [List.forall_mem_cons] at h ⊢
    obtain ⟨hget, hapart, hrest⟩ := hcolumns
    obtain ⟨x, hx⟩ := h.1
    refine ⟨?_, ih hrest h.2 _⟩
    have hlater : c.1.get (putAll columns (c.1.put c.2 a)) = c.1.get (c.1.put c.2 a) :=
      get_putAll (fun d hd => hapart _ (List.mem_map_of_mem (List.mem_map_of_mem hd))) _
    show _ = Except.ok (c.1.get (putAll columns (c.1.put c.2 a)))
    rw [hlater, Field.put_of_ok hx, hget, hx]

/-- Attributes that are filled from columns and else are as before: each of the columns has put its
value into its field, and the members that none of them holds are untouched. -/
structure Filled [Attributes A] (columns : List (Field A × ColumnValue)) (a₀ a : A) : Prop where
  decoded : ∀ c ∈ columns, c.1.column.ofColumn c.2 = .ok (c.1.get a)
  kept : ∀ m ∈ Attributes.members (A := A), m.name ∉ columns.map (·.1.name) → m.get a = m.get a₀

end Mapping

open Mapping

/-! ## Every kind -/

theorem Kind.filled_putAll {k : Kind} {columns : List (Field k.Attributes × ColumnValue)}
    (hsub : (columns.map Prod.fst).Sublist (Attributes.mapping (A := k.Attributes)).fields)
    (h : ∀ c ∈ columns, c.1.Accepts c.2) (a₀ : k.Attributes) :
    Filled columns a₀ (putAll columns a₀) where
  decoded := ofColumn_putAll (k.independent_fields.sublist (hsub.map _)) h a₀
  kept m hm hname := by
    refine get_putAll (fun c hc => ?_) a₀
    have hfield := hsub.subset (List.mem_map_of_mem hc)
    have hne : c.1.name ≠ m.name := fun heq => hname (List.mem_map.2 ⟨c, hc, heq⟩)
    exact symm (k.apart_of_mem hfield hm hne)

theorem Kind.table_mapping (k : Kind) : (Attributes.mapping (A := k.Attributes)).kind.table = k.table :=
  congrArg Kind.table k.kind_schema

section Apply

variable {k : Kind} {values : List ColumnValue}
  (hlength : values.length = (Attributes.mapping (A := k.Attributes)).size)

include hlength

theorem Kind.apply_of_accepted
    (h : ∀ c ∈ (Attributes.mapping (A := k.Attributes)).fields.zip values, c.1.Accepts c.2)
    (a₀ : k.Attributes) :
    ∃ a, Attributes.mapping.apply a₀ values = (a, none) ∧
      Filled ((Attributes.mapping (A := k.Attributes)).fields.zip values) a₀ a := by
  generalize hcolumns : (Attributes.mapping (A := k.Attributes)).fields.zip values = columns at h
  have hfields : columns.map Prod.fst = (Attributes.mapping (A := k.Attributes)).fields :=
    hcolumns ▸ List.map_fst_zip hlength.ge
  have hvalues : columns.map Prod.snd = values := hcolumns ▸ List.map_snd_zip hlength.le
  have hfill := fill_of_accepted k.table h a₀
  rw [hfields, hvalues] at hfill
  have hsub : (columns.map Prod.fst).Sublist Attributes.mapping.fields := by rw [hfields]
  refine ⟨_, ?_, k.filled_putAll hsub h a₀⟩
  rw [Mapping.apply, if_pos hlength, k.table_mapping, hfill]

theorem Kind.apply_of_rejected {before after : List (Field k.Attributes × ColumnValue)}
    {f : Field k.Attributes} {v : ColumnValue} {e : ColumnError}
    (hsplit : Attributes.mapping.fields.zip values = before ++ (f, v) :: after)
    (h : ∀ c ∈ before, c.1.Accepts c.2) (hv : f.column.ofColumn v = .error e) (a₀ : k.Attributes) :
    ∃ a, Attributes.mapping.apply a₀ values = (a, some (.column k.table f.name e)) ∧
      Filled before a₀ a ∧ f.get a = f.get a₀ ∧ ∀ c ∈ after, c.1.get a = c.1.get a₀ := by
  have hfields : (before ++ (f, v) :: after).map Prod.fst = Attributes.mapping.fields :=
    hsplit ▸ List.map_fst_zip hlength.ge
  have hvalues : (before ++ (f, v) :: after).map Prod.snd = values :=
    hsplit ▸ List.map_snd_zip hlength.le
  have hfill := @fill_of_rejected _ before after k.table f v e hv h a₀
  rw [hfields, hvalues] at hfill
  rw [List.map_append, List.map_cons] at hfields
  have hfilled := k.filled_putAll (hfields ▸ List.sublist_append_left _ _) h a₀
  -- no column from the one that stopped on has a name that was written
  have hlater : ∀ g ∈ f :: after.map Prod.fst, g.get (putAll before a₀) = g.get a₀ := by
    have hnames := (TableSchema.defect?_eq_none_iff.1 k.defect?_schema).1
    rw [Kind.schema, Attributes.schema, columnNames_schema, ← hfields, List.map_append, List.map_map,
      List.nodup_append] at hnames
    intro g hg
    have hmem : g ∈ Attributes.mapping.fields := hfields ▸ List.mem_append_right _ hg
    refine hfilled.kept g.toMember (k.toMember_mem_members g hmem) fun hname => ?_
    exact hnames.2.2 _ hname _ (List.mem_map_of_mem hg) rfl
  rw [List.forall_mem_cons, List.forall_mem_map] at hlater
  refine ⟨_, ?_, hfilled, hlater.1, hlater.2⟩
  rw [Mapping.apply, if_pos hlength, k.table_mapping, hfill]

end Apply

namespace Attributes

/-- Filling attributes from a row is writing a prefix of its columns. With more or fewer values than
columns nothing is written. Otherwise each column writes the field that it holds, up to the first that
does not take its value: the error is of that column, its field and those of the columns after it are
as before, and so is every member without a column. Reading a row is filling the default attributes. -/
theorem apply_up_to_rejected (k : Kind) (a₀ : k.Attributes) (values : List ColumnValue) :
    let m := mapping (A := k.Attributes)
    (values.length ≠ m.size →
      m.apply a₀ values = (a₀, some (.arityMismatch k.table m.size values.length))) ∧
    (values.length = m.size →
      ((∀ c ∈ m.fields.zip values, c.1.Accepts c.2) →
        ∃ a, m.apply a₀ values = (a, none) ∧ Filled (m.fields.zip values) a₀ a) ∧
      ∀ before f v after e, m.fields.zip values = before ++ (f, v) :: after →
        (∀ c ∈ before, c.1.Accepts c.2) → f.column.ofColumn v = .error e →
          ∃ a, m.apply a₀ values = (a, some (.column k.table f.name e)) ∧ Filled before a₀ a ∧
            f.get a = f.get a₀ ∧ ∀ c ∈ after, c.1.get a = c.1.get a₀) ∧
    (∀ a, m.read default values = .ok a ↔ m.apply default values = (a, none)) ∧
    ∀ e, m.read default values = .error e ↔ ∃ a, m.apply default values = (a, some e) := by
  intro m
  refine ⟨fun hne => ?_, fun hlength => ⟨fun h => Kind.apply_of_accepted hlength h a₀, ?_⟩,
    fun a => ?_, fun e => ?_⟩
  · rw [Mapping.apply, if_neg hne, k.table_mapping]
  · exact fun before f v after e hsplit h hv => Kind.apply_of_rejected hlength hsplit h hv a₀
  · unfold Mapping.read
    rcases m.apply default values with ⟨b, _ | e⟩ <;> simp
  · unfold Mapping.read
    rcases m.apply default values with ⟨b, _ | e⟩ <;> simp

/-- A voltage that is no number stops a bus from being read: it is named and in its voltage level, and
its voltage and angle are as they were. -/
theorem apply_up_to_rejected_word :
    let a₀ : ConfiguredBus := { (default : ConfiguredBus) with
      v := some (.ofInt 400), angle := some (.ofInt 3) }
    let values : List ColumnValue :=
      [.text "bus", .integer 1, .json (.obj []), .text "VL1", .text "high", .integer 7]
    values.length = ConfiguredBus.mapping.size ∧
      ∃ a, ConfiguredBus.mapping.apply a₀ values
          = (a, some (.column "configuredBus" "v" (.invalidValue "high" (some "not a number")))) ∧
        a.name = some "bus" ∧ a.fictitious = true ∧ a.voltageLevelId = "VL1" ∧
          a.v = some (.ofInt 400) ∧ a.angle = some (.ofInt 3) := by
  intro a₀ values
  have hlength : values.length = ConfiguredBus.mapping.size := rfl
  have hsplit : ConfiguredBus.mapping.fields.zip values
      = (ConfiguredBus.mapping.fields.take 4).zip (values.take 4) ++
        (.optional "v" (·.v) fun v a => { a with v := v }, .text "high") ::
          [(.optional "angle" (·.angle) fun v a => { a with angle := v }, .integer 7)] := rfl
  have hbefore : ∀ c ∈ (ConfiguredBus.mapping.fields.take 4).zip (values.take 4),
      c.1.Accepts c.2 := by
    exact List.forall_mem_cons.2 ⟨⟨_, rfl⟩, List.forall_mem_cons.2 ⟨⟨_, rfl⟩,
      List.forall_mem_cons.2 ⟨⟨_, rfl⟩, List.forall_mem_cons.2 ⟨⟨_, rfl⟩, List.forall_mem_nil _⟩⟩⟩⟩
  obtain ⟨a, happly, hfilled, hv, hangle⟩ :=
    ((apply_up_to_rejected (.equipment .configuredBus) a₀ values).2.1 hlength).2 _ _ _ _ _ hsplit
      hbefore rfl
  -- the columns before the voltage hold what they were filled with
  obtain ⟨hname, hrest⟩ := List.forall_mem_cons.1 hfilled.decoded
  obtain ⟨hfictitious, hrest⟩ := List.forall_mem_cons.1 hrest
  obtain ⟨-, hrest⟩ := List.forall_mem_cons.1 hrest
  obtain ⟨hlevel, -⟩ := List.forall_mem_cons.1 hrest
  exact ⟨hlength, a, happly, (Except.ok.inj hname).symm, (Except.ok.inj hfictitious).symm,
    (Except.ok.inj hlevel).symm, hv, hangle _ (List.mem_singleton_self _)⟩

end Attributes

end GridStore
