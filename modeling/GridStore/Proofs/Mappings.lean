import GridStore.Attributes.Basic
import Mathlib.Data.List.Nodup

/-!
# Columns by name

A declaration without a defect gives each column its own name, none of them the name of a fixed
column, and names containers and an update key among them (`TableSchema.defect?_eq_none_iff`). So a
column is found by its name: the values of a row and those that an update assigns stand in the order
of their columns, and the value that it matches is the key's (`Mapping.getElem?_values`,
`Mapping.updateValues_assigned`, `Mapping.updateValues_matched`).
-/

namespace GridStore

namespace TableSchema

theorem columnDefect?_eq_none_iff {fixed : List String} : ∀ {names seen : List String},
    columnDefect? fixed seen names = none ↔
      names.Nodup ∧ ∀ name ∈ names, name ∉ seen ∧ name ∉ fixed
  | [], _ => by simp [columnDefect?]
  | name :: names, seen => by
    have hrest := @columnDefect?_eq_none_iff fixed names (seen ++ [name])
    rw [columnDefect?, List.nodup_cons, List.forall_mem_cons]
    split
    · rename_i hseen
      simp [hseen]
    · rename_i hseen
      split
      · rename_i hfixed
        simp [hfixed]
      · rename_i hfixed
        -- names after the first are not seen before and not the first
        have hsplit : (∀ c ∈ names, c ∉ seen ++ [name] ∧ c ∉ fixed) ↔
            name ∉ names ∧ ∀ c ∈ names, c ∉ seen ∧ c ∉ fixed := by
          simp only [List.mem_append, List.mem_singleton, not_or]
          constructor
          · intro h
            exact ⟨fun hname => (h name hname).1.2 rfl, fun c hc => ⟨(h c hc).1.1, (h c hc).2⟩⟩
          · rintro ⟨hname, h⟩ c hc
            exact ⟨⟨(h c hc).1, ne_of_mem_of_not_mem hc hname⟩, (h c hc).2⟩
        rw [hrest, hsplit, and_iff_right (And.intro hseen hfixed)]
        tauto

/-- What a declaration without a defect is. -/
theorem defect?_eq_none_iff {s : TableSchema} : s.defect? = none ↔
    s.columnNames.Nodup ∧ (∀ name ∈ s.columnNames, name ∉ s.layout.fixedColumns) ∧
      (∀ name ∈ s.containers, name ∈ s.columnNames) ∧
        ∀ name ∈ s.updateKey, name ∈ s.columnNames := by
  have hcolumns := @columnDefect?_eq_none_iff s.layout.fixedColumns s.columnNames []
  simp only [List.not_mem_nil, not_false_eq_true, true_and] at hcolumns
  rw [← and_assoc, ← hcolumns, defect?]
  rcases columnDefect? s.layout.fixedColumns [] s.columnNames with _ | defect
  · simp only [true_and]
    split
    · rename_i hcontainers
      have hnot : ¬ ∀ c ∈ s.containers, c ∈ s.columnNames := by simpa using hcontainers
      simpa using fun h => absurd h hnot
    · rename_i hcontainers
      have hcontainers : ∀ c ∈ s.containers, c ∈ s.columnNames := by simpa using hcontainers
      rw [and_iff_right hcontainers]
      rcases s.updateKey with _ | key <;> simp
  · simp

end TableSchema

theorem EquipmentKind.kind_attributes (k : EquipmentKind) :
    Attributes.kind k.Attributes = .equipment k := by
  cases k <;> rfl

theorem Kind.kind_schema : ∀ k : Kind, k.schema.kind = k
  | .network => rfl
  | .equipment k => k.kind_attributes

theorem Kind.layout_schema (k : Kind) : k.schema.layout = k.layout := by
  rw [TableSchema.layout, k.kind_schema]

/-- The declarations of all kinds are without a defect. -/
theorem Kind.defect?_schema (k : Kind) : k.schema.defect? = none := by
  rcases k with _ | k
  · decide
  · cases k <;> decide

/-- What has a key that nothing else has is found by it. -/
theorem find?_of_nodup_map {α : Type*} {β : Type} [DecidableEq β] {key : α → β} {as : List α}
    (h : (as.map key).Nodup) {a : α} (ha : a ∈ as) : as.find? (key · = key a) = some a := by
  have hsome : (as.find? (key · = key a)).isSome := by
    rw [List.find?_isSome]
    exact ⟨a, ha, by simp⟩
  obtain ⟨b, hb⟩ := Option.isSome_iff_exists.1 hsome
  have hkey : key b = key a := by simpa using List.find?_some hb
  rw [hb, List.inj_on_of_nodup_map h (List.mem_of_find?_eq_some hb) ha hkey]

namespace Mapping

variable {A : Type} {m : Mapping A}

theorem columnNames_schema (m : Mapping A) : m.schema.columnNames = m.fields.map (·.name) :=
  List.map_map

theorem length_values (m : Mapping A) (a : A) : (m.values a).length = m.size :=
  List.length_map _

/-- A field is the one that has its name. -/
theorem find?_name (h : m.schema.columnNames.Nodup) {f : Field A} (hf : f ∈ m.fields) :
    m.fields.find? (·.name = f.name) = some f := by
  rw [columnNames_schema] at h
  exact find?_of_nodup_map h hf

theorem valueOf?_name (h : m.schema.columnNames.Nodup) {f : Field A} (hf : f ∈ m.fields) (a : A) :
    m.valueOf? a f.name = some (f.read a) := by
  rw [valueOf?, find?_name h hf, Option.map_some]

/-- The values of a row stand in the order of the columns. -/
theorem getElem?_values (h : m.schema.columnNames.Nodup) (a : A) (i : Nat) :
    (m.values a)[i]? = m.schema.columnNames[i]?.bind (m.valueOf? a) := by
  rw [values, columnNames_schema, List.getElem?_map, List.getElem?_map]
  rcases hf : m.fields[i]? with _ | f
  · rfl
  · exact (valueOf?_name h (List.mem_of_getElem? hf) a).symm

/-- The values that an update assigns stand in the order of the columns that it assigns. -/
theorem updateValues_assigned (h : m.schema.columnNames.Nodup) (a : A) :
    (m.updateValues a).1.map some = m.schema.updateColumns.map (m.valueOf? a) := by
  rw [updateValues, List.partition_eq_filter_filter, TableSchema.updateColumns, columnNames_schema,
    List.filter_map, List.map_map, List.map_map]
  exact List.map_congr_left fun f hf => (valueOf?_name h (List.mem_filter.1 hf).1 a).symm

theorem filter_name {name : String} : ∀ {fields : List (Field A)}, (fields.map (·.name)).Nodup →
    fields.filter (·.name = name) = (fields.find? (·.name = name)).toList
  | [], _ => rfl
  | f :: fields, h => by
    rw [List.map_cons, List.nodup_cons] at h
    by_cases hf : f.name = name
    · have hnone : fields.filter (·.name = name) = [] := by
        rw [List.filter_eq_nil_iff]
        intro g hg hname
        exact h.1 (List.mem_map.2 ⟨g, hg, (of_decide_eq_true hname).trans hf.symm⟩)
      rw [List.filter_cons_of_pos (by simpa using hf), List.find?_cons_of_pos (by simpa using hf),
        hnone, Option.toList_some]
    · rw [List.filter_cons_of_neg (by simpa using hf), List.find?_cons_of_neg (by simpa using hf),
        filter_name h.2]

/-- The value that an update matches is the one of the key. -/
theorem updateValues_matched (h : m.schema.columnNames.Nodup) (a : A) :
    (m.updateValues a).2 = m.updateKey.bind (m.valueOf? a) := by
  rw [updateValues, List.partition_eq_filter_filter]
  show ((m.fields.filter _).map _).getLast? = _
  rcases m.updateKey with _ | key
  · simp
  · have hmatched : m.fields.filter (not ∘ fun f => decide (some f.name ≠ some key))
        = (m.fields.find? (·.name = key)).toList := by
      rw [columnNames_schema] at h
      rw [← filter_name h]
      exact List.filter_congr fun f _ => by simp
    rw [hmatched, Option.bind_some, valueOf?]
    cases List.find? (fun f => decide (f.name = key)) m.fields <;> rfl

end Mapping

end GridStore
